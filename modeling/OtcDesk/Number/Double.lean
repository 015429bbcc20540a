namespace OtcDesk

/-- A double-precision number, where a finite one is its significand times a power of two. -/
inductive Double where
  | nan
  | infinite (negative : Bool)
  | finite (negative : Bool) (significand : Nat) (exponent : Int)
  deriving DecidableEq, Repr

namespace Double

/-- The quotient is rounded to the nearest integer, and a tie goes to the even neighbour. -/
def roundHalfEven (num den : Nat) : Nat :=
  let quotient := num / den
  let twice := 2 * (num % den)
  if twice < den then quotient
  else if den < twice then quotient + 1
  else quotient + quotient % 2

/-- A ratio times a power of two, as a ratio. -/
def scale (num den : Nat) (power : Int) : Nat × Nat :=
  if 0 ≤ power then (num * Nat.pow 2 power.toNat, den)
  else (num, den * Nat.pow 2 (-power).toNat)

/-- The exponent at which a positive ratio has a significand of 53 bits, or the least exponent. -/
def exponentOf (num den : Nat) : Int :=
  let guess : Int := (num.log2 : Int) - (den.log2 : Int) - 52
  let (n, d) := scale num den (-guess)
  max (-1074) (if n < Nat.pow 2 52 * d then guess - 1 else guess)

/-- The double nearest to a ratio, ties to even; a ratio beyond the range becomes infinite. -/
def ofRatio (negative : Bool) (num den : Nat) : Double :=
  if num = 0 then .finite negative 0 (-1074)
  else
    let exponent := exponentOf num den
    let (n, d) := scale num den (-exponent)
    let significand := roundHalfEven n d
    let (significand, exponent) :=
      if significand = Nat.pow 2 53 then (Nat.pow 2 52, exponent + 1) else (significand, exponent)
    if 971 < exponent then .infinite negative else .finite negative significand exponent

/-- The number of decimal digits of a number. -/
def digitCount (n : Nat) : Nat := (Nat.toDigits 10 n).length

/-- The double nearest to `mantissa * 10 ^ exponent`. -/
def ofDecimal (negative : Bool) (mantissa : Nat) (exponent : Int) : Double :=
  if mantissa = 0 then .finite negative 0 (-1074)
  else
    let magnitude := (digitCount mantissa : Int) + exponent
    if 310 < magnitude then .infinite negative
    else if magnitude < -330 then .finite negative 0 (-1074)
    else if 0 ≤ exponent then ofRatio negative (mantissa * Nat.pow 10 exponent.toNat) 1
    else ofRatio negative mantissa (Nat.pow 10 (-exponent).toNat)

/-- The double nearest to an integer. -/
def ofInt (n : Int) : Double := ofRatio (n < 0) n.natAbs 1

/-- A number is zero in either sign. -/
def isZero : Double → Bool
  | .finite _ significand _ => significand == 0
  | _ => false

/-- The integer part of a finite number, toward zero. -/
def truncate? : Double → Option Int
  | .finite negative significand exponent =>
    let magnitude :=
      if 0 ≤ exponent then significand * Nat.pow 2 exponent.toNat
      else significand / Nat.pow 2 (-exponent).toNat
    some (if negative then -(magnitude : Int) else magnitude)
  | _ => none

/-- The value of a finite number. -/
def value? : Double → Option Rat
  | .finite negative significand exponent =>
    let magnitude : Rat :=
      if 0 ≤ exponent then (significand * Nat.pow 2 exponent.toNat : Nat)
      else mkRat significand (Nat.pow 2 (-exponent).toNat)
    some (if negative then -magnitude else magnitude)
  | _ => none

/-- The sixty-four bits of the number. -/
def toBits : Double → Nat
  | .nan => 0x7ff8000000000000
  | .infinite negative => (if negative then Nat.pow 2 63 else 0) + 0x7ff0000000000000
  | .finite negative significand exponent =>
    (if negative then Nat.pow 2 63 else 0) +
      (if significand < Nat.pow 2 52 then significand
       else (exponent + 1075).toNat * Nat.pow 2 52 + (significand - Nat.pow 2 52))

end Double

end OtcDesk
