import OtcDesk.Json.Text
import OtcDesk.Record.Trade

namespace OtcDesk

/-- An error that the desk reports to its user. -/
inductive DeskError where
  /-- A failure of no narrower kind. -/
  | general (message : String)
  /-- No usable answer came. -/
  | transport (message : String) (status : Option Int)
  /-- The backend refuses, or an input is refused on its behalf. -/
  | rejection (code : Json) (reason : String) (status : Option Int)
  /-- The wallet does not sign. -/
  | signatureDeclined (reason : String)
  /-- The session is expired, unknown, or of no known role. -/
  | session (message : String)
  /-- There is no session to act under. -/
  | noSession (message : String)
  /-- The key of the desk cannot be used. -/
  | keyUnusable (message : String)
  /-- The backend answers a trade and refuses it. -/
  | tradeRejected (code : Json) (reason : String) (status : Option Int)
      (result : Option OrchestrationResult)
  deriving DecidableEq, Repr

/-- What went wrong in a call: an error of the desk, a fault, or the user breaking off. -/
inductive Failure where
  | desk (error : DeskError)
  | fault (fault : Fault)
  | interrupted
  deriving DecidableEq, Repr

namespace DeskError

/-- A reason behind its code, where there is a code. -/
def coded (code : Json) (reason : String) : String :=
  if code.isGiven then "[" ++ code.text ++ "] " ++ reason else reason

/-- The code of a declined signature. -/
def declinedCode : Json := .str "USER_DECLINED_SIGNATURE"

/-- The reason given when a wallet declines without one. -/
def declinedReason : String := "wallet signature was declined"

/-- The message of an absent session. -/
def noSessionMessage : String :=
  "wallet session missing; connect wallet and verify access first"

/-- The reason given when a trade is refused without one. -/
def blockedReason : String := "compliance gate blocked orchestration"

/-- The text of an error. -/
def message : DeskError → String
  | .general message => message
  | .transport message _ => message
  | .rejection code reason _ => coded code reason
  | .signatureDeclined reason => coded declinedCode reason
  | .session message => message
  | .noSession message => message
  | .keyUnusable message => message
  | .tradeRejected code reason _ _ => coded code reason

/-- A rejection under a fixed code and without a status. -/
def refused (code reason : String) : DeskError := .rejection (.str code) reason none

/-- The status that a rejection came with. -/
def rejectedStatus? : DeskError → Option Int
  | .rejection _ _ status | .tradeRejected _ _ status _ => status
  | _ => none

end DeskError

/-- The text of a fault, which quotes the name of a missing member. -/
def Fault.text (fault : Fault) : String :=
  match fault.cause with
  | .missing => Text.quoted fault.message
  | _ => fault.message

/-- The text of a failure. -/
def Failure.text : Failure → String
  | .desk refusal => refusal.message
  | .fault cause => cause.text
  | .interrupted => ""

end OtcDesk
