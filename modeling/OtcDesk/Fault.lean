namespace OtcDesk

/-- The causes of a fault. -/
inductive Fault.Cause where
  /-- A value has a shape that the operation does not take. -/
  | wrongShape
  /-- A value has the right shape but no meaning there. -/
  | badValue
  /-- Bytes do not encode a text. -/
  | badText
  /-- A member is asked of a value that is no object. -/
  | notAnObject
  /-- A member is not there. -/
  | missing
  /-- A number is too large. -/
  | tooLarge
  /-- The system refuses. -/
  | system
  /-- Something fails while running. -/
  | running
  /-- Something is nested deeper than the stack allows. -/
  | tooDeep
  /-- A text has a character that cannot be encoded. -/
  | notEncodable
  /-- An address cannot be used for a request. -/
  | badAddress
  deriving DecidableEq, Repr

/-- A fault has a cause and says what happened. -/
structure Fault where
  cause : Fault.Cause
  message : String
  deriving DecidableEq, Repr

/-- A fault that a reader of answers understands as a malformed answer. -/
def Fault.isMalformed (fault : Fault) : Bool :=
  match fault.cause with
  | .wrongShape | .badValue | .badText | .notEncodable | .notAnObject | .missing => true
  | .tooLarge | .system | .running | .tooDeep | .badAddress => false

end OtcDesk
