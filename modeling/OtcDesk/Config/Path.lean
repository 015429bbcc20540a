import OtcDesk.Fault
import OtcDesk.Table
import OtcDesk.Text.Blank
import OtcDesk.Text.Columns

namespace OtcDesk

/-- A path: the slashes that it starts from, and its parts. -/
structure Path where
  root : String
  parts : List String
  deriving DecidableEq, Repr

namespace Path

/-- The parts of a list of characters between slashes. -/
def splitSlashes (text : List Char) : List (List Char) :=
  text.foldr
    (fun c parts =>
      match parts with
      | part :: rest => if c = '/' then [] :: part :: rest else (c :: part) :: rest
      | [] => [[c]])
    [[]]

/-- The root that a text starts with: exactly two slashes stay two, any other number is one. -/
def rootOf (text : List Char) : String :=
  match (text.takeWhile (· == '/')).length with
  | 0 => ""
  | 2 => "//"
  | _ => "/"

/-- The path that a text names. -/
def ofText (text : String) : Path where
  root := rootOf text.toList
  parts :=
    ((splitSlashes text.toList).map String.ofList).filter fun part => part ≠ "" ∧ part ≠ "."

/-- The text of a path; a path of nothing is a dot. -/
def text (path : Path) : String :=
  if path.root.isEmpty && path.parts.isEmpty then "."
  else path.root ++ String.intercalate "/" path.parts

/-- The home directory of the environment; a slash at its end does not count. -/
def home? (environment : Table String) : Option Path :=
  (environment.get? "HOME").bind fun home =>
    if home.toList.head? = some '~' then none
    else some (ofText (Text.orElse (Text.stripEndOf '/' home) "/"))

/-- A path whose first part is a tilde starts from the home directory. -/
def expandUser (environment : Table String) (path : Path) : Except Fault Path :=
  match path.root, path.parts with
  | "", first :: rest =>
    if first.toList.head? ≠ some '~' then .ok path
    else
      match if first = "~" then home? environment else none with
      | some home => .ok { home with parts := home.parts ++ rest }
      | none => .error ⟨.running, "the home directory is not known"⟩
  | _, _ => .ok path

end Path

end OtcDesk
