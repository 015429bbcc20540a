import OtcDesk.Json.Field

namespace OtcDesk

/-- A reading of the clock. -/
inductive Clock where
  | whole (seconds : Int)
  | real (seconds : Double)
  deriving DecidableEq, Repr

/-- The whole seconds of a reading, toward zero. -/
def Clock.seconds : Clock → Except Fault Int
  | .whole seconds => .ok seconds
  | .real seconds => (Json.float seconds).toInt

/-- A session is over from the second of its expiry on. -/
def isExpired (expiresAt : Int) (clock : Clock) : Except Fault Bool := do
  return expiresAt ≤ (← clock.seconds)

end OtcDesk
