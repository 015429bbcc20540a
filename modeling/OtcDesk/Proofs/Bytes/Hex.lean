import OtcDesk.Bytes.Hex

namespace OtcDesk

/-- The digits of a number are those of the values below sixteen. -/
theorem Text.mem_hexDigits {count : Nat} {c : Char} :
    ∀ {value : Nat}, c ∈ Text.hexDigits count value → ∃ digit < 16, c = Text.hexDigit digit := by
  induction count with
  | zero =>
      intro value member
      cases member
  | succ count ih =>
      intro value member
      rcases List.mem_append.mp member with higher | last
      · exact ih higher
      · exact ⟨value % 16, Nat.mod_lt _ (by decide), List.mem_singleton.mp last⟩

namespace Hex

/-- The digits are ASCII, none of them is blank or marks hexadecimal, and each has its own value. -/
theorem hexDigit_spec : ∀ value < 16, digit? (Text.hexDigit value) = some value ∧
    (Text.hexDigit value).toNat < 0x80 ∧ Text.isBlank (Text.hexDigit value) = false ∧
    Text.isAsciiBlank (Text.hexDigit value) = false ∧ Text.hexDigit value ≠ 'x' ∧
    Text.hexDigit value ≠ 'X' := by
  decide

theorem hexDigit_inj {value other : Nat} (fits : value < 16) (alsoFits : other < 16)
    (same : Text.hexDigit value = Text.hexDigit other) : value = other := by
  have read := (hexDigit_spec value fits).1
  rw [same, (hexDigit_spec other alsoFits).1] at read
  exact (Option.some.inj read).symm

/-- Two numbers that the digits have room for differ in some digit. -/
theorem hexDigits_inj {count : Nat} : ∀ {value other : Nat}, value < Nat.pow 16 count →
    other < Nat.pow 16 count → Text.hexDigits count value = Text.hexDigits count other →
      value = other := by
  induction count with
  | zero =>
      intro value other fits alsoFits _
      rw [Nat.pow] at fits alsoFits
      omega
  | succ count ih =>
      intro value other fits alsoFits same
      rw [Nat.pow, Nat.mul_eq] at fits alsoFits
      obtain ⟨higher, last⟩ := List.append_inj' same rfl
      have front : value / 16 = other / 16 := ih (by omega) (by omega) higher
      have back : value % 16 = other % 16 :=
        hexDigit_inj (Nat.mod_lt _ (by decide)) (Nat.mod_lt _ (by decide)) (List.cons.inj last).1
      omega

theorem encodeByte_eq (b : UInt8) :
    encodeByte b = [Text.hexDigit (b.toNat / 16), Text.hexDigit (b.toNat % 16)] := by
  have bound := b.toNat_lt
  have high : b.toNat / 16 % 16 = b.toNat / 16 := by omega
  simp [encodeByte, Text.hexDigits, high]

/-- The text of a byte string consists of digits. -/
theorem mem_encode (bytes : Bytes) (c : Char) :
    c ∈ bytes.flatMap encodeByte → ∃ value < 16, c = Text.hexDigit value := by
  intro member
  obtain ⟨b, _, digit⟩ := List.mem_flatMap.mp member
  have bound := b.toNat_lt
  rw [encodeByte_eq] at digit
  simp only [List.mem_cons, List.not_mem_nil, or_false] at digit
  rcases digit with high | low
  · exact ⟨_, by omega, high⟩
  · exact ⟨_, by omega, low⟩

theorem decodeFrom_encodeByte (b : UInt8) (position : Nat) (rest : List Char) :
    decodeFrom position (encodeByte b ++ rest) = (b :: ·) <$> decodeFrom (position + 2) rest := by
  have bound := b.toNat_lt
  obtain ⟨high, _, _, solid, _, _⟩ := hexDigit_spec (b.toNat / 16) (by omega)
  obtain ⟨low, _, _, _, _, _⟩ := hexDigit_spec (b.toNat % 16) (by omega)
  have whole : 16 * (b.toNat / 16) + b.toNat % 16 = b.toNat := by omega
  rw [encodeByte_eq, List.cons_append, List.singleton_append, decodeFrom, solid,
    if_neg Bool.false_ne_true, high, low]
  simp only [whole, UInt8.ofNat_toNat]

theorem decodeFrom_encode (bytes : Bytes) :
    ∀ position, decodeFrom position (bytes.flatMap encodeByte) = .ok bytes := by
  induction bytes with
  | nil => exact fun _ => rfl
  | cons b rest ih =>
      intro position
      rw [List.flatMap_cons, decodeFrom_encodeByte, ih]
      rfl

/-- Every byte string is read back from its digits. -/
theorem decode_encode (bytes : Bytes) : decode (encode bytes) = .ok bytes := by
  have ascii : (bytes.flatMap encodeByte).findIdx? (0x80 ≤ ·.toNat) = none := by
    rw [List.findIdx?_eq_none_iff]
    intro c member
    obtain ⟨value, fits, same⟩ := mem_encode bytes c member
    have low := (hexDigit_spec value fits).2.1
    rw [← same] at low
    simp only [decide_eq_false_iff_not]
    omega
  rw [decode, encode, String.toList_ofList, ascii]
  exact decodeFrom_encode bytes 0

end Hex

end OtcDesk
