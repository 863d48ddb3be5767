import Socks.ServerParsers
import Socks.Asio.Monitor

/-!
# The server, watched

What a monitor has to say about the server it mostly says about the CONNECT request, and about
what follows it. The greeting, the method and the user/pass message come before, and a monitor
that waits for the request has no objection to any of them: neither to a message that is written,
nor to a failure that is reported and the connection dropped. For such a monitor the handlers up
to the request are one theorem.

## Main definitions

* `Socks.ServerTrace`, `Socks.ServerMonitor` — traces of the server, and monitors for them
* `Socks.AwaitsRequest` — the monitor waits for the request

## Main results

* `Socks.AwaitsRequest.parseSocksGreeting` — from the handler that reads the request to the one
  that reads the greeting
-/

namespace Socks

open Asio SocksConnection

/-- The trace of a server. -/
abbrev ServerTrace : Type := List (Asio.Step ErrorCode ServerCall ServerAnswer)

/-- A monitor for a server. -/
abbrev ServerMonitor (M : Type) : Type := Monitor ErrorCode ServerCall ServerAnswer Ending M

variable {M : Type} {mon : ServerMonitor M} {R : ServerCall → ServerAnswer → Prop} {I : M → Prop}
  {self : SocksConnection} {m : M}

/-- In the states in `I`, the monitor waits for the request. -/
structure AwaitsRequest (mon : ServerMonitor M) (I : M → Prop) : Prop where
  /-- Failures may be reported. -/
  fail : ∀ ec what t a, mon.Keeps I (.call (.fail ec what t) a)
  /-- Messages may be written. -/
  write : ∀ bs n ec, mon.Keeps I (.write bs n ec)
  /-- The user/pass message may be read. -/
  read : ∀ got ec, mon.Keeps I (.read 513 got ec)
  /-- The connection may be dropped. -/
  dropped : ∀ m, I m → mon.Accepts m .dropped

namespace AwaitsRequest

variable (h : AwaitsRequest mon I)

include h

theorem returnFail (hm : I m) (ec : ErrorCode) (what : String) :
    (SocksConnection.returnFail ec what).Meets mon R m := by
  intro a _
  obtain ⟨hallows, hnext⟩ := h.fail ec what none a m hm
  exact ⟨hallows, h.dropped _ hnext⟩

variable (hrequest : ∀ m, I m → ∀ self : SocksConnection, self.targetSocket = none →
  self.doReadConnectRequest.Meets mon R m)

include hrequest

theorem parseUserpassGreeting (hm : I m) (hsocket : self.targetSocket = none) :
    self.parseUserpassGreeting.Meets mon R m := by
  rw [SocksConnection.parseUserpassGreeting]
  split_ifs
  · exact h.returnFail hm _ _
  · exact h.returnFail hm _ _
  · exact h.returnFail hm _ _
  · exact h.returnFail hm _ _
  · exact h.returnFail hm _ _
  · exact h.returnFail hm _ _
  · intro n ec
    obtain ⟨hallows, hnext⟩ := h.write [0x01, 0x00] n ec m hm
    refine ⟨hallows, ?_⟩
    dsimp only
    split_ifs
    · exact h.returnFail hnext _ _
    · exact hrequest _ hnext _ hsocket

theorem doUserpassGreet (hm : I m) (hsocket : self.targetSocket = none) :
    self.doUserpassGreet.Meets mon R m := by
  rw [doUserpassGreet_eq]
  intro got ec _ _
  obtain ⟨hallows, hnext⟩ := h.read got ec m hm
  refine ⟨hallows, ?_⟩
  dsimp only
  split_ifs
  · exact h.parseUserpassGreeting hrequest hnext hsocket
  · exact h.returnFail hnext _ _

theorem doServerChoice (hm : I m) (hsocket : self.targetSocket = none) :
    self.doServerChoice.Meets mon R m := by
  intro n ec
  obtain ⟨hallows, hnext⟩ := h.write [0x05, self.serverChoice] n ec m hm
  refine ⟨hallows, ?_⟩
  dsimp only
  split_ifs
  · exact h.returnFail hnext _ _
  · exact h.returnFail hnext _ _
  · exact h.doUserpassGreet hrequest hnext hsocket
  · exact hrequest _ hnext _ hsocket

/-- **A monitor that waits has no objection before the request.** -/
theorem parseSocksGreeting (hm : I m) (hsocket : self.targetSocket = none) :
    self.parseSocksGreeting.Meets mon R m := by
  rw [SocksConnection.parseSocksGreeting]
  split_ifs
  · exact h.returnFail hm _ _
  · exact h.returnFail hm _ _
  · exact h.returnFail hm _ _
  · exact h.returnFail hm _ _
  · exact h.doServerChoice hrequest hm hsocket
  · exact h.doServerChoice hrequest hm hsocket
  · exact h.doServerChoice hrequest hm hsocket

end AwaitsRequest

end Socks
