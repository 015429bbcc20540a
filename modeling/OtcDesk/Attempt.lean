import OtcDesk.DeskError

namespace OtcDesk

/-- An attempt changes a state and brings a result or a failure. -/
abbrev Attempt (σ α : Type) := σ → Except Failure α × σ

namespace Attempt

variable {σ α β : Type}

/-- An attempt that goes on with the result of another, unless that one fails. -/
def andThen (first : Attempt σ α) (next : α → Attempt σ β) : Attempt σ β := fun state =>
  match first state with
  | (.ok value, state) => next value state
  | (.error failure, state) => (.error failure, state)

theorem andThen_ok {first : Attempt σ α} {state after : σ} {value : α}
    (succeeds : first state = (.ok value, after)) (next : α → Attempt σ β) :
    first.andThen next state = next value after := by
  simp [andThen, succeeds]

theorem andThen_error {first : Attempt σ α} {state after : σ} {failure : Failure}
    (fails : first state = (.error failure, after)) (next : α → Attempt σ β) :
    first.andThen next state = (.error failure, after) := by
  simp [andThen, fails]

end Attempt

end OtcDesk
