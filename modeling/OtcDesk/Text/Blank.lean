namespace OtcDesk.Text

/-- A character is blank when it is white space of Unicode or an information separator. -/
def isBlank (c : Char) : Bool :=
  let n := c.toNat
  (0x09 ≤ n && n ≤ 0x0d) || (0x1c ≤ n && n ≤ 0x20) || n == 0x85 || n == 0xa0 || n == 0x1680 ||
    (0x2000 ≤ n && n ≤ 0x200a) || n == 0x2028 || n == 0x2029 || n == 0x202f || n == 0x205f ||
    n == 0x3000

/-- A character is an ASCII blank when it is a space or a control from tab to carriage return. -/
def isAsciiBlank (c : Char) : Bool :=
  let n := c.toNat
  (0x09 ≤ n && n ≤ 0x0d) || n == 0x20

/-- The end of the list is trimmed of the characters that satisfy `p`. -/
def dropWhileEnd (p : Char → Bool) (text : List Char) : List Char :=
  (text.reverse.dropWhile p).reverse

/-- Both ends of the list are trimmed of the characters that satisfy `p`. -/
def trimWhere (p : Char → Bool) (text : List Char) : List Char :=
  dropWhileEnd p (text.dropWhile p)

/-- The text loses the blanks at both ends. -/
def strip (text : String) : String := String.ofList (trimWhere isBlank text.toList)

/-- The text loses the blanks at its end. -/
def stripEnd (text : String) : String := String.ofList (dropWhileEnd isBlank text.toList)

/-- The text loses every `mark` at its end. -/
def stripEndOf (mark : Char) (text : String) : String :=
  String.ofList (dropWhileEnd (· == mark) text.toList)

@[simp] theorem toList_strip (text : String) :
    (strip text).toList = trimWhere isBlank text.toList := by
  simp [strip]

end OtcDesk.Text
