import OtcDesk.Text.CaseTable

namespace OtcDesk.Text

/-- A code point lies in one of the ranges. -/
def inRanges (ranges : List (Nat × Nat)) (n : Nat) : Bool :=
  ranges.any fun range => range.1 ≤ n && n ≤ range.2

/-- A row applies to the members of its progression. -/
def CaseRow.applies (row : CaseRow) (n : Nat) : Bool :=
  row.first ≤ n && n ≤ row.last && (n - row.first) % row.step == 0

/-- A row moves a code point by its shift. -/
def CaseRow.move (row : CaseRow) (n : Nat) : Nat := ((n : Int) + row.shift).toNat

/-- A character maps to its expansion, or by the first row that applies, or to itself. -/
def mapCase (rows : List CaseRow) (expansions : List (Nat × List Nat)) (c : Char) : List Char :=
  match expansions.lookup c.toNat with
  | some expansion => expansion.map Char.ofNat
  | none =>
    match rows.find? (·.applies c.toNat) with
    | some row => [Char.ofNat (row.move c.toNat)]
    | none => [c]

/-- One character in lower case, apart from its surroundings. -/
def lowerChar (c : Char) : List Char := mapCase lowerRows lowerExpansions c

/-- One character in upper case. -/
def upperChar (c : Char) : List Char := mapCase upperRows upperExpansions c

/-- The first character that case conversion does not skip is a letter with a case. -/
def nextIsCased (text : List Char) : Bool :=
  match text.dropWhile (fun c => inRanges caseIgnorableRanges c.toNat) with
  | c :: _ => inRanges casedRanges c.toNat
  | [] => false

/-- A capital sigma takes its final form after a cased letter and before none. -/
def lowerSigma (before after : List Char) : Char :=
  if nextIsCased before && !nextIsCased after then 'ς' else 'σ'

/-- The list in lower case, where `before` holds what came earlier, nearest character first. -/
def lowerFrom (before : List Char) : List Char → List Char
  | [] => []
  | c :: rest =>
    (if c = 'Σ' then [lowerSigma before rest] else lowerChar c) ++ lowerFrom (c :: before) rest

/-- The text in lower case. -/
def lower (text : String) : String := String.ofList (lowerFrom [] text.toList)

/-- The text in upper case. -/
def upper (text : String) : String := String.ofList (text.toList.flatMap upperChar)

end OtcDesk.Text
