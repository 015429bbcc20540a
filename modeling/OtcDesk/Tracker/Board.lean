import OtcDesk.Tracker.View

namespace OtcDesk

/-- The view that is shown, and the generation that may write it. -/
structure Board where
  view : View := .idle
  generation : Nat := 0
  deriving DecidableEq, Repr

namespace Board

/-- A generation is the one that may write. -/
def isCurrent (board : Board) (generation : Nat) : Bool := generation == board.generation

/-- No generation so far may write any more. -/
def supersede (board : Board) : Board := { board with generation := board.generation + 1 }

/-- The board with a view that a generation has written, if it may. -/
def write? (board : Board) (generation : Nat) (view : View) : Option Board :=
  if board.isCurrent generation then some { board with view } else none

end Board

end OtcDesk
