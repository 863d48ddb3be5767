import Socks.Asio.Prog
import Mathlib.Data.Int.Notation

/-!
# Error codes

Boost.System error codes are a value in a category, and whether a code is a failure is for its
category to say. The library's own category calls `0` and `90` successes: `0` is SOCKS5's
`succeeded`, `90` is SOCKS4's `request_granted`, and one enumeration holds both code spaces.

Only the categories that occur are named; `other` stands for any further one a stream may report
from, with Boost's default that every nonzero value is a failure.

## Main definitions

* `Socks.Error`, `Socks.Condition` — the library's two enumerations
* `Socks.ErrorCode`, `Socks.ErrorCode.failed`, `Socks.makeErrorCode`
* `Socks.ErrorCode.defaultErrorCondition`, `Socks.ErrorCode.isSucceeded` — comparison with
  `condition::succeeded`
* `Socks.ReplyCode`, `Socks.ReplyCodeV4` — what servers answer, as error codes
-/

namespace Socks

open Asio

/-! ### The enumerations -/

/-- `enum class error`. -/
inductive Error
  -- SOCKS5 replies
  | succeeded
  | generalFailure
  | connectionNotAllowedByRuleset
  | networkUnreachable
  | hostUnreachable
  | connectionRefused
  | ttlExpired
  | commandNotSupported
  | addressTypeNotSupported
  -- SOCKS4 replies
  | requestGranted
  | requestRejectedOrFailed
  | cannotConnectToIdentdOnTheClient
  | clientAndIdentdReportDifferentUserIds
  -- communication errors
  | badReplySize
  | badReplyVersion
  | badServerChoice
  | badReplyCommand
  | badReservedComponent
  | badAddressType
  | accessDenied
  | unassignedReplyCode
  deriving DecidableEq

/-- The value of an enumerator. -/
def Error.value : Error → ℤ
  | .succeeded => 0x00
  | .generalFailure => 0x01
  | .connectionNotAllowedByRuleset => 0x02
  | .networkUnreachable => 0x03
  | .hostUnreachable => 0x04
  | .connectionRefused => 0x05
  | .ttlExpired => 0x06
  | .commandNotSupported => 0x07
  | .addressTypeNotSupported => 0x08
  | .requestGranted => 90
  | .requestRejectedOrFailed => 91
  | .cannotConnectToIdentdOnTheClient => 92
  | .clientAndIdentdReportDifferentUserIds => 93
  | .badReplySize => 0xA0
  | .badReplyVersion => 0xA1
  | .badServerChoice => 0xA2
  | .badReplyCommand => 0xA3
  | .badReservedComponent => 0xA4
  | .badAddressType => 0xA5
  | .accessDenied => 0xA6
  | .unassignedReplyCode => 0xFF

/-- Every enumerator, in order. -/
def Error.all : List Error :=
  [.succeeded, .generalFailure, .connectionNotAllowedByRuleset, .networkUnreachable,
    .hostUnreachable, .connectionRefused, .ttlExpired, .commandNotSupported,
    .addressTypeNotSupported, .requestGranted, .requestRejectedOrFailed,
    .cannotConnectToIdentdOnTheClient, .clientAndIdentdReportDifferentUserIds, .badReplySize,
    .badReplyVersion, .badServerChoice, .badReplyCommand, .badReservedComponent, .badAddressType,
    .accessDenied, .unassignedReplyCode]

/-- `static_cast<error>(ev)`, when `ev` is the value of an enumerator. -/
def Error.ofValue (ev : ℤ) : Option Error := Error.all.find? fun e => e.value = ev

theorem Error.ofValue_value (e : Error) : Error.ofValue e.value = some e := by
  cases e <;> rfl

/-- `enum class condition`. -/
inductive Condition
  | succeeded
  | replyError
  | ioError
  deriving DecidableEq

/-! ### Error codes -/

/-- The categories error codes come from. -/
inductive ErrorCategory
  | system
  | misc
  | socks
  | other (id : ℕ)
  deriving DecidableEq

/-- `boost::system::error_code`. -/
structure ErrorCode where
  category : ErrorCategory
  value : ℤ
  deriving DecidableEq

/-- `error_code{}`. -/
def ErrorCode.ok : ErrorCode := ⟨.system, 0⟩

/-- `asio::error::eof`, in the category `asio.misc`. -/
def ErrorCode.eof : ErrorCode := ⟨.misc, 2⟩

/-- `error_code::failed`: `socks_category::failed` for the library's own category, the default
for the others. -/
def ErrorCode.failed (ec : ErrorCode) : Bool :=
  match ec.category with
  | .socks => ec.value != 0 && ec.value != 90
  | _ => ec.value != 0

instance : ErrorLike ErrorCode := ⟨.ok, ErrorCode.failed, rfl⟩

@[simp] theorem errorLike_ok : (Asio.ok : ErrorCode) = .ok := rfl

@[simp] theorem errorLike_failed (ec : ErrorCode) : Asio.failed ec = ec.failed := rfl

@[simp] theorem ErrorCode.failed_ok : ErrorCode.ok.failed = false := rfl

@[simp] theorem ErrorCode.failed_eof : ErrorCode.eof.failed = true := rfl

/-- `make_error_code`, which is also how an `error` converts to an `error_code`. -/
def makeErrorCode (e : Error) : ErrorCode := ⟨.socks, e.value⟩

/-- No code of the library's category is the end of file. -/
theorem makeErrorCode_ne_eof (e : Error) : makeErrorCode e ≠ .eof := by
  intro h
  have hcat : ErrorCategory.socks = .misc := congrArg ErrorCode.category h
  cases hcat

/-- Of the enumerators, exactly the two reply codes that mean success are not failures. -/
theorem failed_makeErrorCode_eq_false_iff (e : Error) :
    (makeErrorCode e).failed = false ↔ e = .succeeded ∨ e = .requestGranted := by
  cases e <;> decide

/-! ### Error conditions -/

/-- `boost::system::error_condition`: one of the library's conditions, or `{ev, *this}`. -/
inductive ErrorCondition
  | condition (c : Condition)
  | code (ec : ErrorCode)
  deriving DecidableEq

/-- The switch of `socks_category::default_error_condition`. -/
def Error.condition : Error → Condition
  | .succeeded | .requestGranted => .succeeded
  | .generalFailure | .connectionNotAllowedByRuleset | .networkUnreachable | .hostUnreachable
  | .connectionRefused | .ttlExpired | .commandNotSupported | .addressTypeNotSupported
  | .requestRejectedOrFailed | .cannotConnectToIdentdOnTheClient
  | .clientAndIdentdReportDifferentUserIds | .unassignedReplyCode => .replyError
  | .badReplySize | .badReplyVersion | .badServerChoice | .badReplyCommand
  | .badReservedComponent | .badAddressType | .accessDenied => .ioError

/-- `default_error_condition`. A category other than the library's never maps to one of the
library's conditions; which condition it maps to instead does not matter here. -/
def ErrorCode.defaultErrorCondition (ec : ErrorCode) : ErrorCondition :=
  match ec.category, Error.ofValue ec.value with
  | .socks, some e => .condition e.condition
  | _, _ => .code ec

/-- `ec == condition::succeeded`. -/
def ErrorCode.isSucceeded (ec : ErrorCode) : Bool :=
  ec.defaultErrorCondition = .condition .succeeded

theorem isSucceeded_makeErrorCode (e : Error) :
    (makeErrorCode e).isSucceeded = !(makeErrorCode e).failed := by
  cases e <;> decide

/-! ### Reply codes -/

/-- `detail::reply_code`, SOCKS5. -/
inductive ReplyCode
  | succeeded
  | generalFailure
  | connectionNotAllowedByRuleset
  | networkUnreachable
  | hostUnreachable
  | connectionRefused
  | ttlExpired
  | commandNotSupported
  | addressTypeNotSupported
  | unassigned
  deriving DecidableEq

/-- `to_reply_code`. -/
def toReplyCode (v : UInt8) : ReplyCode :=
  match v.toNat with
  | 0x00 => .succeeded
  | 0x01 => .generalFailure
  | 0x02 => .connectionNotAllowedByRuleset
  | 0x03 => .networkUnreachable
  | 0x04 => .hostUnreachable
  | 0x05 => .connectionRefused
  | 0x06 => .ttlExpired
  | 0x07 => .commandNotSupported
  | 0x08 => .addressTypeNotSupported
  | _ => .unassigned

/-- `static_cast<error>` of a SOCKS5 reply code: the enumerator with the same value. -/
def Error.ofReplyCode : ReplyCode → Error
  | .succeeded => .succeeded
  | .generalFailure => .generalFailure
  | .connectionNotAllowedByRuleset => .connectionNotAllowedByRuleset
  | .networkUnreachable => .networkUnreachable
  | .hostUnreachable => .hostUnreachable
  | .connectionRefused => .connectionRefused
  | .ttlExpired => .ttlExpired
  | .commandNotSupported => .commandNotSupported
  | .addressTypeNotSupported => .addressTypeNotSupported
  | .unassigned => .unassignedReplyCode

/-- `detail::reply_code_v4`, SOCKS4. -/
inductive ReplyCodeV4
  | requestGranted
  | requestRejectedOrFailed
  | cannotConnectToIdentdOnTheClient
  | clientAndIdentdReportDifferentUserIds
  | unassigned
  deriving DecidableEq

/-- `to_reply_code_v4`. -/
def toReplyCodeV4 (v : UInt8) : ReplyCodeV4 :=
  match v.toNat with
  | 90 => .requestGranted
  | 91 => .requestRejectedOrFailed
  | 92 => .cannotConnectToIdentdOnTheClient
  | 93 => .clientAndIdentdReportDifferentUserIds
  | _ => .unassigned

/-- `static_cast<error>` of a SOCKS4 reply code: the enumerator with the same value. -/
def Error.ofReplyCodeV4 : ReplyCodeV4 → Error
  | .requestGranted => .requestGranted
  | .requestRejectedOrFailed => .requestRejectedOrFailed
  | .cannotConnectToIdentdOnTheClient => .cannotConnectToIdentdOnTheClient
  | .clientAndIdentdReportDifferentUserIds => .clientAndIdentdReportDifferentUserIds
  | .unassigned => .unassignedReplyCode

/-- The error of a SOCKS5 reply byte: the byte itself up to `8`, else `unassigned_reply_code`. -/
theorem value_ofReplyCode (q : UInt8) :
    (Error.ofReplyCode (toReplyCode q)).value
      = if q.toNat ≤ 8 then (q.toNat : ℤ) else Error.unassignedReplyCode.value := by
  unfold toReplyCode
  generalize q.toNat = n
  match n with
  | 0 | 1 | 2 | 3 | 4 | 5 | 6 | 7 | 8 => rfl
  | n + 9 => exact (if_neg (by omega)).symm

/-- The error of a SOCKS4 reply byte: the byte itself from `90` to `93`, else
`unassigned_reply_code`. The codes of SOCKS5 are not among them. -/
theorem value_ofReplyCodeV4 (q : UInt8) :
    (Error.ofReplyCodeV4 (toReplyCodeV4 q)).value
      = if 90 ≤ q.toNat ∧ q.toNat ≤ 93 then (q.toNat : ℤ) else Error.unassignedReplyCode.value := by
  unfold toReplyCodeV4
  generalize q.toNat = n
  split
  case h_5 h90 h91 h92 h93 =>
    refine (if_neg ?_).symm
    rintro ⟨hlo, hhi⟩
    obtain rfl | rfl | rfl | rfl : n = 90 ∨ n = 91 ∨ n = 92 ∨ n = 93 := by omega
    exacts [h90 rfl, h91 rfl, h92 rfl, h93 rfl]
  all_goals rfl

end Socks
