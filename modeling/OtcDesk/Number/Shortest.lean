import OtcDesk.Number.Double

namespace OtcDesk.Double

/-- The reals that round to a number, by their ends over a common denominator. -/
structure Interval where
  low : Nat
  value : Nat
  high : Nat
  den : Nat
  closed : Bool

/-- The reals that round to a number, with both ends exactly when its significand is even. -/
def intervalOf (significand : Nat) (exponent : Int) : Interval :=
  let gap := if significand = Nat.pow 2 52 ∧ -1074 < exponent then 1 else 2
  let (unit, den) := scale 1 4 exponent
  { low := (4 * significand - gap) * unit
    value := 4 * significand * unit
    high := (4 * significand + 2) * unit
    den := den
    closed := significand % 2 = 0 }

/-- A decimal `digits / scale` lies in the interval. -/
def Interval.contains (range : Interval) (num den : Nat) : Bool :=
  let point := num * range.den
  let low := range.low * den
  let high := range.high * den
  if range.closed then low ≤ point && point ≤ high else low < point && point < high

/-- The nearest neighbour of the number on the grid of a step that reads back, in steps. -/
def Interval.onGrid? (range : Interval) (power : Int) : Option Nat :=
  let (num, den) :=
    if 0 ≤ power then (Nat.pow 10 power.toNat, 1) else (1, Nat.pow 10 (-power).toNat)
  let steps := range.value * den / (range.den * num)
  let below := range.contains (steps * num) den
  let above := range.contains ((steps + 1) * num) den
  let twice := 2 * (range.value * den - steps * range.den * num)
  let whole := range.den * num
  let nearerBelow := twice < whole || (twice == whole && steps % 2 == 0)
  if below && (nearerBelow || !above) && steps ≠ 0 then some steps
  else if above then some (steps + 1)
  else none

/-- The first grid that holds a decimal reading back, from the step `10 ^ power` downwards. -/
def Interval.search (range : Interval) (power : Int) : Nat → Nat × Int
  | 0 => (range.value / range.den, 0)
  | fuel + 1 =>
    match range.onGrid? power with
    | some steps => (steps, power)
    | none => range.search (power - 1) fuel

/-- The digits of the shortest decimal and the power of ten of the last one. -/
def shortest (significand : Nat) (exponent : Int) : Nat × Int :=
  let range := intervalOf significand exponent
  let magnitude :=
    if range.den ≤ range.value then (digitCount (range.value / range.den) : Int)
    else -(digitCount (range.den / range.value) : Int) + 1
  range.search magnitude 20

/-- Zeros at the end of the digits move into the power of ten. -/
def dropZeros (digits : Nat) (power : Int) : Nat → Nat × Int
  | 0 => (digits, power)
  | fuel + 1 =>
    if digits % 10 = 0 ∧ digits ≠ 0 then dropZeros (digits / 10) (power + 1) fuel
    else (digits, power)

/-- How decimal digits are laid out as text. -/
structure Layout where
  /-- The least power of ten of the first digit that is written positionally. -/
  least : Int
  /-- The power of ten of the first digit from which an exponent is written. -/
  most : Int
  /-- The least number of digits of the exponent. -/
  exponentWidth : Nat

/-- An exponent with its sign and at least `width` digits. -/
def exponentText (width : Nat) (power : Int) : String :=
  let digits := toString power.natAbs
  (if power < 0 then "-" else "+") ++
    String.ofList (List.replicate (width - digits.length) '0') ++ digits

/-- The digits as text; a whole number keeps one zero after the point. -/
def Layout.layOut (form : Layout) (digits : Nat) (power : Int) : String :=
  let text := toString digits
  let first := power + (text.length : Int) - 1
  if first < form.least ∨ form.most ≤ first then
    let fraction := text.toList.drop 1
    String.ofList (text.toList.take 1 ++ (if fraction.isEmpty then [] else '.' :: fraction)) ++
      "e" ++ exponentText form.exponentWidth first
  else if first < 0 then
    "0." ++ String.ofList (List.replicate (-first - 1).toNat '0') ++ text
  else if 0 ≤ power then
    text ++ String.ofList (List.replicate power.toNat '0') ++ ".0"
  else
    String.ofList (text.toList.take (first.toNat + 1)) ++ "." ++
      String.ofList (text.toList.drop (first.toNat + 1))

/-- Numbers from a ten-thousandth up to ten to the sixteenth are written without an exponent. -/
def plainLayout : Layout := ⟨-4, 16, 2⟩

/-- The shortest text of a double. -/
def text : Double → String
  | .nan => "nan"
  | .infinite negative => if negative then "-inf" else "inf"
  | .finite negative significand exponent =>
    let body :=
      if significand = 0 then "0.0"
      else
        let (digits, power) := shortest significand exponent
        let (digits, power) := dropZeros digits power 20
        plainLayout.layOut digits power
    if negative then "-" ++ body else body

end OtcDesk.Double
