import Socks.Transcript
import Socks.Safety
import Socks.Framing
import Socks.Dialogue
import Socks.Assertions
import Socks.Grammar
import Socks.ReplyCodec
import Socks.FirstMessage
import Socks.OnlyComplete
import Socks.Rejections
import Socks.Relay
import Socks.Asio.Conclusion
import Socks.Outcome
import Socks.SessionV4
import Socks.Asio.Sequel
import Socks.Asio.Handlers
import Socks.Asio.Pool
import Socks.Stages
import Socks.Service
import Socks.SocksServer
import Socks.Clients
import Socks.Retries
