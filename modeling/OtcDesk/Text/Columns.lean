namespace OtcDesk.Text

/-- The text is followed by spaces up to the width. -/
def padEnd (width : Nat) (text : String) : String :=
  String.ofList (text.toList ++ List.replicate (width - text.length) ' ')

/-- The text is preceded by spaces up to the width. -/
def padStart (width : Nat) (text : String) : String :=
  String.ofList (List.replicate (width - text.length) ' ' ++ text.toList)

/-- The text keeps at most its first `count` characters. -/
def cut (count : Nat) (text : String) : String := String.ofList (text.toList.take count)

/-- The lines stand one below the other. -/
def joinLines (lines : List String) : String := String.intercalate "\n" lines

/-- The text, or the other text where it is empty. -/
def orElse (text other : String) : String := if text.isEmpty then other else text

/-- A text counts as given when it is there and not empty. -/
def given? : Option String → Option String
  | some text => if text.isEmpty then none else some text
  | none => none

end OtcDesk.Text
