import OtcDesk.Number.Double
import OtcDesk.Proofs.Text.Integer

namespace OtcDesk.Double

/-- The whole part of a significand times a power of two. -/
def wholePart (significand : Nat) (exponent : Int) : Nat :=
  if 0 ≤ exponent then significand * Nat.pow 2 exponent.toNat
  else significand / Nat.pow 2 (-exponent).toNat

/-- The integer part of the number, if it is finite, can be converted. -/
def InRange (number : Double) : Prop :=
  ∀ whole, number.truncate? = some whole → Text.isConvertible whole = true

theorem inRange_nan : nan.InRange := by
  intro whole found
  cases found

theorem inRange_infinite (negative : Bool) : (infinite negative).InRange := by
  intro whole found
  cases found

theorem inRange_finite {negative : Bool} {significand : Nat} {exponent : Int}
    (below : wholePart significand exponent < 10 ^ Text.digitLimit) :
    (finite negative significand exponent).InRange := by
  intro whole found
  obtain rfl := Option.some.inj found
  change Text.isConvertible (if negative then -(wholePart significand exponent : Int)
    else wholePart significand exponent) = true
  rw [Text.isConvertible_iff]
  split
  · rwa [Int.natAbs_neg, Int.natAbs_natCast]
  · rwa [Int.natAbs_natCast]

theorem inRange_zero (negative : Bool) : (finite negative 0 (-1074)).InRange := by
  apply inRange_finite
  rw [wholePart, if_neg (by decide), Nat.zero_div]
  exact Nat.pow_pos (by decide)

theorem roundHalfEven_le (num den : Nat) : roundHalfEven num den ≤ num / den + 1 := by
  simp only [roundHalfEven]
  split
  · omega
  · split <;> omega

/-- A rounded ratio lies at most one unit of its last place above the ratio. -/
theorem wholePart_roundHalfEven (num den : Nat) (exponent : Int) :
    wholePart (roundHalfEven (scale num den (-exponent)).1 (scale num den (-exponent)).2) exponent ≤
      num / den + Nat.pow 2 exponent.toNat := by
  have positive : ∀ power, 0 < Nat.pow 2 power := fun power => Nat.pow_pos (by decide)
  rcases Int.lt_trichotomy exponent 0 with below | rfl | above
  · have rounded := roundHalfEven_le (num * Nat.pow 2 (-exponent).toNat) den
    have same : num * Nat.pow 2 (-exponent).toNat / den / Nat.pow 2 (-exponent).toNat = num / den := by
      rw [Nat.div_div_eq_div_mul, Nat.mul_div_mul_right _ _ (positive _)]
    rw [scale, if_pos (by omega), wholePart, if_neg (by omega)]
    calc roundHalfEven (num * Nat.pow 2 (-exponent).toNat) den / Nat.pow 2 (-exponent).toNat
        ≤ (num * Nat.pow 2 (-exponent).toNat / den + 1) / Nat.pow 2 (-exponent).toNat :=
          Nat.div_le_div_right rounded
      _ ≤ num * Nat.pow 2 (-exponent).toNat / den / Nat.pow 2 (-exponent).toNat + 1 := by
          rw [Nat.succ_div]
          split <;> omega
      _ ≤ num / den + Nat.pow 2 exponent.toNat := by
          rw [same]
          exact Nat.add_le_add_left (positive _) _
  · have rounded := roundHalfEven_le num den
    simpa [scale, wholePart] using rounded
  · have rounded := roundHalfEven_le num (den * Nat.pow 2 exponent.toNat)
    rw [scale, if_neg (by omega), wholePart, if_pos (by omega), Int.neg_neg]
    calc roundHalfEven num (den * Nat.pow 2 exponent.toNat) * Nat.pow 2 exponent.toNat
        ≤ (num / (den * Nat.pow 2 exponent.toNat) + 1) * Nat.pow 2 exponent.toNat :=
          Nat.mul_le_mul_right _ rounded
      _ ≤ num / den + Nat.pow 2 exponent.toNat := by
          rw [← Nat.div_div_eq_div_mul, Nat.succ_mul]
          exact Nat.add_le_add_right (Nat.div_mul_le_self _ _) _

/-- A significand that is halved is made up for by the exponent. -/
theorem wholePart_double (significand : Nat) (exponent : Int) :
    wholePart significand (exponent + 1) = wholePart (significand * 2) exponent := by
  simp only [wholePart, Nat.pow_eq]
  by_cases whole : 0 ≤ exponent
  · have raised : (exponent + 1).toNat = exponent.toNat + 1 := by omega
    rw [if_pos whole, if_pos (by omega), raised, Nat.pow_succ', Nat.mul_assoc]
  · have lowered : (-exponent).toNat = (-(exponent + 1)).toNat + 1 := by omega
    rw [if_neg whole, lowered, Nat.pow_succ, Nat.mul_div_mul_right _ _ (by decide)]
    split
    · have last : (exponent + 1).toNat = 0 ∧ (-(exponent + 1)).toNat = 0 := by omega
      rw [last.1, last.2, Nat.pow_zero, Nat.mul_one, Nat.div_one]
    · rfl

theorem pow_add_pow_le {digits power : Nat} (few : digits < Text.digitLimit)
    (small : power < Text.digitLimit) : 10 ^ digits + 2 ^ power ≤ 10 ^ Text.digitLimit := by
  obtain ⟨less, same⟩ := Nat.exists_eq_succ_of_ne_zero (Nat.ne_of_gt (Nat.zero_lt_of_lt few))
  rw [same] at few small ⊢
  have decimal : 10 ^ digits ≤ 10 ^ less := Nat.pow_le_pow_right (by decide) (by omega)
  have binary : 2 ^ power ≤ 10 ^ power := Nat.pow_le_pow_left (by decide) power
  have longer : 10 ^ power ≤ 10 ^ less := Nat.pow_le_pow_right (by decide) (by omega)
  rw [Nat.pow_succ]
  omega

/-- The double nearest to a ratio that is not too large is in range. -/
theorem inRange_ofRatio (negative : Bool) {num den digits : Nat} (few : digits < Text.digitLimit)
    (below : num / den < 10 ^ digits) : (ofRatio negative num den).InRange := by
  have fits : ∀ {significand : Nat} {exponent power : Int}, power ≤ 971 →
      wholePart significand exponent ≤ num / den + Nat.pow 2 power.toNat →
      wholePart significand exponent < 10 ^ Text.digitLimit := by
    intro significand exponent power small bounded
    have limit := pow_add_pow_le few (by unfold Text.digitLimit; omega : power.toNat < _)
    rw [Nat.pow_eq] at bounded
    omega
  unfold ofRatio
  split
  · exact inRange_zero negative
  · have rounded := wholePart_roundHalfEven num den (exponentOf num den)
    generalize exponentOf num den = exponent at rounded
    dsimp only
    generalize roundHalfEven _ _ = significand at rounded
    by_cases full : significand = Nat.pow 2 53
    · rw [if_pos full]
      dsimp only
      split
      · exact inRange_infinite negative
      · have halved : significand = Nat.pow 2 52 * 2 := full
        rw [halved, ← wholePart_double] at rounded
        exact inRange_finite (fits (by omega) rounded)
    · rw [if_neg full]
      dsimp only
      split
      · exact inRange_infinite negative
      · exact inRange_finite (fits (by omega) rounded)

/-- The double nearest to a decimal is in range. -/
theorem inRange_ofDecimal (negative : Bool) (mantissa : Nat) (exponent : Int) :
    (ofDecimal negative mantissa exponent).InRange := by
  have digits : mantissa < 10 ^ digitCount mantissa :=
    (Nat.length_toDigits_le_iff (by decide) Nat.length_toDigits_pos).mp (Nat.le_refl _)
  unfold ofDecimal
  split
  · exact inRange_zero negative
  dsimp only
  split
  · exact inRange_infinite negative
  split
  · exact inRange_zero negative
  split
  · have few : digitCount mantissa + exponent.toNat < Text.digitLimit := by
      unfold Text.digitLimit
      omega
    apply inRange_ofRatio negative few
    rw [Nat.div_one, Nat.pow_eq, Nat.pow_add]
    exact Nat.mul_lt_mul_of_pos_right digits (Nat.pow_pos (by decide))
  · have few : digitCount mantissa - (-exponent).toNat < Text.digitLimit := by
      unfold Text.digitLimit
      omega
    apply inRange_ofRatio negative few
    rw [Nat.pow_eq, Nat.div_lt_iff_lt_mul (Nat.pow_pos (by decide)), ← Nat.pow_add]
    exact Nat.lt_of_lt_of_le digits (Nat.pow_le_pow_right (by decide) (by omega))

end OtcDesk.Double
