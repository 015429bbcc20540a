import OtcDesk.Json.Text
import OtcDesk.Proofs.Json.Numbers

namespace OtcDesk

theorem Double.Layout.layOut_ne_empty (form : Layout) (digits : Nat) (power : Int) :
    form.layOut digits power ≠ "" := by
  unfold layOut
  dsimp only
  split
  · simp
  · split
    · simp
    · split <;> simp

theorem Double.text_ne_empty (value : Double) : value.text ≠ "" := by
  cases value with
  | nan => decide
  | infinite negative => cases negative <;> decide
  | finite negative significand exponent =>
      rw [text]
      dsimp only
      split
      · simp
      · split
        · decide
        · exact plainLayout.layOut_ne_empty _ _

namespace Json

theorem toString_int_ne_empty (value : Int) : toString value ≠ "" := by
  intro empty
  have characters := congrArg String.toList empty
  cases value with
  | ofNat number =>
      rw [toList_toString_ofNat] at characters
      exact Nat.toDigits_ne_nil characters
  | negSucc number =>
      rw [toList_toString_negSucc] at characters
      cases characters

theorem innerText_ne_empty (value : Json) : value.innerText ≠ "" := by
  cases value with
  | null => decide
  | bool value => cases value <;> decide
  | int value => exact toString_int_ne_empty value
  | float value => exact value.text_ne_empty
  | str text => simp [innerText, Text.quoted]
  | arr items => simp [innerText]
  | obj fields => simp [innerText]

/-- A value that counts as given has a text. -/
theorem text_ne_empty_of_isGiven {value : Json} (given : value.isGiven = true) :
    value.text ≠ "" := by
  cases value with
  | str text => simpa [isGiven, Json.text] using given
  | _ => exact innerText_ne_empty _

end Json

end OtcDesk
