import OtcDesk.Bytes.Base64

namespace OtcDesk.Base64

/-- The letters are ASCII, none of them is the padding, and each has its own value. -/
theorem letter_spec : ∀ value < 64, value? (letter value) = some value ∧ letter value ≠ '=' ∧
    (letter value).toNat < 0x80 := by
  decide

/-- A letter joins an open group that it does not fill. -/
theorem decodeFrom_letter {group : List Nat} {value : Nat} (count : Nat) (rest : List Char)
    (fits : value < 64) (short : group.length < 3) :
    decodeFrom { group, count } (letter value :: rest) =
      decodeFrom { group := value :: group, count := count + 1 } rest := by
  obtain ⟨known, plain, _⟩ := letter_spec value fits
  rw [decodeFrom, if_neg plain, known]
  match group, short with
  | [], _ => rfl
  | [_], _ => rfl
  | [_, _], _ => rfl

/-- The fourth letter closes a group. -/
theorem decodeFrom_fourth {value : Nat} (a b c count : Nat) (rest : List Char)
    (fits : value < 64) :
    decodeFrom { group := [c, b, a], count } (letter value :: rest) =
      ([UInt8.ofNat (4 * a + b / 16), UInt8.ofNat (b % 16 * 16 + c / 4),
        UInt8.ofNat (c % 4 * 64 + value)] ++ ·) <$> decodeFrom { count := count + 1 } rest := by
  obtain ⟨known, plain, _⟩ := letter_spec value fits
  rw [decodeFrom, if_neg plain, known]
  rfl

theorem decodeFrom_two_pads (a b count : Nat) :
    decodeFrom { group := [b, a], count } ['=', '='] = .ok [UInt8.ofNat (4 * a + b / 16)] := rfl

theorem decodeFrom_one_pad (a b c count : Nat) :
    decodeFrom { group := [c, b, a], count } ['='] =
      .ok [UInt8.ofNat (4 * a + b / 16), UInt8.ofNat (b % 16 * 16 + c / 4)] := rfl

/-- From the beginning of a group, the letters of a byte string give it back. -/
theorem decodeFrom_encodeList (bytes : Bytes) :
    ∀ count, decodeFrom { count } (encodeList bytes) = .ok bytes := by
  induction bytes using encodeList.induct with
  | case1 =>
      intro count
      rfl
  | case2 a =>
      intro count
      have aBound := a.toNat_lt
      have first : 4 * (a.toNat / 4) + a.toNat % 4 * 16 / 16 = a.toNat := by omega
      rw [encodeList, decodeFrom_letter _ _ (by omega) (by simp),
        decodeFrom_letter _ _ (by omega) (by simp), decodeFrom_two_pads, first, UInt8.ofNat_toNat]
  | case3 a b =>
      intro count
      have aBound := a.toNat_lt
      have bBound := b.toNat_lt
      have first : 4 * (a.toNat / 4) + (a.toNat % 4 * 16 + b.toNat / 16) / 16 = a.toNat := by omega
      have second : (a.toNat % 4 * 16 + b.toNat / 16) % 16 * 16 + b.toNat % 16 * 4 / 4 =
          b.toNat := by omega
      rw [encodeList, decodeFrom_letter _ _ (by omega) (by simp),
        decodeFrom_letter _ _ (by omega) (by simp), decodeFrom_letter _ _ (by omega) (by simp),
        decodeFrom_one_pad, first, second, UInt8.ofNat_toNat, UInt8.ofNat_toNat]
  | case4 a b c rest ih =>
      intro count
      have aBound := a.toNat_lt
      have bBound := b.toNat_lt
      have cBound := c.toNat_lt
      have first : 4 * (a.toNat / 4) + (a.toNat % 4 * 16 + b.toNat / 16) / 16 = a.toNat := by omega
      have second : (a.toNat % 4 * 16 + b.toNat / 16) % 16 * 16 +
          (b.toNat % 16 * 4 + c.toNat / 64) / 4 = b.toNat := by omega
      have third : (b.toNat % 16 * 4 + c.toNat / 64) % 4 * 64 + c.toNat % 64 = c.toNat := by omega
      rw [encodeList, decodeFrom_letter _ _ (by omega) (by simp),
        decodeFrom_letter _ _ (by omega) (by simp), decodeFrom_letter _ _ (by omega) (by simp),
        decodeFrom_fourth _ _ _ _ _ (by omega), ih, first, second, third,
        UInt8.ofNat_toNat, UInt8.ofNat_toNat, UInt8.ofNat_toNat]
      rfl

/-- The text of a byte string consists of letters and padding. -/
theorem mem_encodeList (bytes : Bytes) (c : Char) :
    c ∈ encodeList bytes → c = '=' ∨ ∃ value < 64, c = letter value := by
  induction bytes using encodeList.induct with
  | case1 =>
      intro member
      cases member
  | case2 a =>
      intro member
      have aBound := a.toNat_lt
      simp only [encodeList, List.mem_cons, List.not_mem_nil, or_false] at member
      rcases member with first | second | pad | pad
      · exact .inr ⟨_, by omega, first⟩
      · exact .inr ⟨_, by omega, second⟩
      · exact .inl pad
      · exact .inl pad
  | case3 a b =>
      intro member
      have aBound := a.toNat_lt
      have bBound := b.toNat_lt
      simp only [encodeList, List.mem_cons, List.not_mem_nil, or_false] at member
      rcases member with first | second | third | pad
      · exact .inr ⟨_, by omega, first⟩
      · exact .inr ⟨_, by omega, second⟩
      · exact .inr ⟨_, by omega, third⟩
      · exact .inl pad
  | case4 a b d rest ih =>
      intro member
      have aBound := a.toNat_lt
      have bBound := b.toNat_lt
      have dBound := d.toNat_lt
      simp only [encodeList, List.mem_cons] at member
      rcases member with first | second | third | fourth | later
      · exact .inr ⟨_, by omega, first⟩
      · exact .inr ⟨_, by omega, second⟩
      · exact .inr ⟨_, by omega, third⟩
      · exact .inr ⟨_, by omega, fourth⟩
      · exact ih later

theorem encodeList_ascii (bytes : Bytes) : ∀ c ∈ encodeList bytes, c.toNat < 0x80 := by
  intro c member
  rcases mem_encodeList bytes c member with pad | ⟨value, fits, same⟩
  · rw [pad]
    decide
  · rw [same]
    exact (letter_spec value fits).2.2

/-- No text in base64 begins with padding. -/
theorem head?_encodeList (bytes : Bytes) : (encodeList bytes).head? ≠ some '=' := by
  have plain (a : UInt8) : letter (a.toNat / 4) ≠ '=' := by
    have aBound := a.toNat_lt
    exact (letter_spec _ (by omega)).2.1
  match bytes with
  | [] => simp [encodeList]
  | [a] => simp [encodeList, plain a]
  | [a, _] => simp [encodeList, plain a]
  | a :: _ :: _ :: _ => simp [encodeList, plain a]

/-- Every byte string is read back from its text. -/
theorem decode_encode (bytes : Bytes) : decode (encode bytes) = .ok bytes := by
  have ascii : ((encodeList bytes).any (0x80 ≤ ·.toNat)) = false := by
    rw [List.any_eq_false]
    intro c member
    have low := encodeList_ascii bytes c member
    simp only [decide_eq_true_eq]
    omega
  rw [decode, encode, String.toList_ofList, ascii, if_neg Bool.false_ne_true,
    if_neg (head?_encodeList bytes)]
  exact decodeFrom_encodeList bytes 0

end OtcDesk.Base64
