import OtcDesk.Json.Reader
import OtcDesk.Json.Writer
import OtcDesk.Proofs.Bytes.Hex
import OtcDesk.Proofs.Bytes.Utf8

namespace OtcDesk.Json

/-- Four digits are read as the unit that they were written for. -/
theorem readUnit_hexDigits {unit : Nat} (fits : unit < 0x10000) (rest : List Char) :
    readUnit (Text.hexDigits 4 unit ++ rest) = some (unit, rest) := by
  obtain ⟨first, _⟩ := Hex.hexDigit_spec (unit / 16 / 16 / 16 % 16) (by omega)
  obtain ⟨second, _⟩ := Hex.hexDigit_spec (unit / 16 / 16 % 16) (by omega)
  obtain ⟨third, _⟩ := Hex.hexDigit_spec (unit / 16 % 16) (by omega)
  obtain ⟨fourth, _⟩ := Hex.hexDigit_spec (unit % 16) (by omega)
  have whole : ((unit / 16 / 16 / 16 % 16 * 16 + unit / 16 / 16 % 16) * 16 + unit / 16 % 16) * 16 +
      unit % 16 = unit := by omega
  simp [Text.hexDigits, readUnit, first, second, third, fourth, whole]

theorem readEscapedUnit_single {c : Char} (fits : c.toNat < 0x10000) (rest : List Char) :
    readEscapedUnit (Text.hexDigits 4 c.toNat ++ rest) = some (c, rest) := by
  have range := Utf8.char_range c
  have high : isHighSurrogate c.toNat = false := by
    simp only [isHighSurrogate, Bool.and_eq_false_iff, decide_eq_false_iff_not]
    omega
  have low : isLowSurrogate c.toNat = false := by
    simp only [isLowSurrogate, Bool.and_eq_false_iff, decide_eq_false_iff_not]
    omega
  simp [readEscapedUnit, readUnit_hexDigits fits, high, low, unitChar, Char.ofNat_toNat]

/-- Two surrogates are joined. -/
theorem readEscapedUnit_surrogates {high low : Nat} (isHigh : isHighSurrogate high = true)
    (isLow : isLowSurrogate low = true) (rest : List Char) :
    readEscapedUnit (Text.hexDigits 4 high ++ (unitEscape low ++ rest)) =
      some (Char.ofNat (0x10000 + (high - 0xd800) * 0x400 + (low - 0xdc00)), rest) := by
  have highFits : high < 0x10000 := by
    simp only [isHighSurrogate, Bool.and_eq_true, decide_eq_true_eq] at isHigh
    omega
  have lowFits : low < 0x10000 := by
    simp only [isLowSurrogate, Bool.and_eq_true, decide_eq_true_eq] at isLow
    omega
  have second : readLowSurrogate? (unitEscape low ++ rest) = some (low, rest) := by
    simp [unitEscape, readLowSurrogate?, readUnit_hexDigits lowFits, isLow]
  simp [readEscapedUnit, readUnit_hexDigits highFits, isHigh, second]

/-- The two surrogates of a character give it back. -/
theorem readEscapedUnit_pair {c : Char} (large : ¬ c.toNat < 0x10000) (rest : List Char) :
    readEscapedUnit (Text.hexDigits 4 (0xd800 + (c.toNat - 0x10000) / 0x400) ++
      (unitEscape (0xdc00 + (c.toNat - 0x10000) % 0x400) ++ rest)) = some (c, rest) := by
  have range := Utf8.char_range c
  have high : isHighSurrogate (0xd800 + (c.toNat - 0x10000) / 0x400) = true := by
    simp only [isHighSurrogate, Bool.and_eq_true, decide_eq_true_eq]
    omega
  have low : isLowSurrogate (0xdc00 + (c.toNat - 0x10000) % 0x400) = true := by
    simp only [isLowSurrogate, Bool.and_eq_true, decide_eq_true_eq]
    omega
  have joined : 0x10000 + (0xd800 + (c.toNat - 0x10000) / 0x400 - 0xd800) * 0x400 +
      (0xdc00 + (c.toNat - 0x10000) % 0x400 - 0xdc00) = c.toNat := by omega
  rw [readEscapedUnit_surrogates high low, joined, Char.ofNat_toNat]

/-- The escape of a character by its number is read as that character. -/
theorem readEscape_codeEscape (c : Char) :
    ∃ body, codeEscape c.toNat = '\\' :: body ∧ ∀ rest, readEscape (body ++ rest) = some (c, rest) := by
  unfold codeEscape
  by_cases small : c.toNat < 0x10000
  · refine ⟨'u' :: Text.hexDigits 4 c.toNat, ?_, ?_⟩
    · rw [if_pos small]
      rfl
    · intro rest
      exact readEscapedUnit_single small rest
  · refine ⟨'u' :: (Text.hexDigits 4 (0xd800 + (c.toNat - 0x10000) / 0x400) ++
      unitEscape (0xdc00 + (c.toNat - 0x10000) % 0x400)), ?_, ?_⟩
    · rw [if_neg small]
      rfl
    · intro rest
      rw [List.cons_append, List.append_assoc]
      exact readEscapedUnit_pair small rest

/-- A character inside quotation marks stands for itself or is an escape that is read as it. -/
theorem escapeChar_spec (asciiOnly : Bool) (c : Char) :
    (escapeChar asciiOnly c = [c] ∧ c ≠ '"' ∧ c ≠ '\\' ∧ ¬ c.toNat < 0x20) ∨
      ∃ body, escapeChar asciiOnly c = '\\' :: body ∧
        ∀ rest, readEscape (body ++ rest) = some (c, rest) := by
  unfold escapeChar
  by_cases quote : c = '"'
  · subst quote
    exact .inr ⟨['"'], rfl, fun _ => rfl⟩
  by_cases backslash : c = '\\'
  · subst backslash
    exact .inr ⟨['\\'], rfl, fun _ => rfl⟩
  by_cases lineFeed : c = '\n'
  · subst lineFeed
    exact .inr ⟨['n'], rfl, fun _ => rfl⟩
  by_cases return_ : c = '\r'
  · subst return_
    exact .inr ⟨['r'], rfl, fun _ => rfl⟩
  by_cases tab : c = '\t'
  · subst tab
    exact .inr ⟨['t'], rfl, fun _ => rfl⟩
  by_cases formFeed : c = '\x0c'
  · subst formFeed
    exact .inr ⟨['f'], rfl, fun _ => rfl⟩
  by_cases backspace : c = '\x08'
  · subst backspace
    exact .inr ⟨['b'], rfl, fun _ => rfl⟩
  rw [if_neg quote, if_neg backslash, if_neg lineFeed, if_neg return_, if_neg tab, if_neg formFeed,
    if_neg backspace]
  by_cases coded : (c.toNat < 0x20 || (asciiOnly && 0x7f ≤ c.toNat)) = true
  · rw [if_pos coded]
    exact .inr (readEscape_codeEscape c)
  · rw [if_neg coded]
    simp only [Bool.or_eq_true, decide_eq_true_eq, not_or] at coded
    exact .inl ⟨rfl, quote, backslash, coded.1⟩

/-- The reader takes a written character and goes on. -/
theorem readString_escapeChar (asciiOnly : Bool) (c : Char) (fuel : Nat) (rest : List Char) :
    readString (fuel + 1) (escapeChar asciiOnly c ++ rest) =
      (readString fuel rest).map fun read => (c :: read.1, read.2) := by
  rcases escapeChar_spec asciiOnly c with ⟨plain, quote, backslash, control⟩ | ⟨body, escape, read⟩
  · rw [plain, List.singleton_append, readString, if_neg quote, if_neg backslash, if_neg control]
    cases readString fuel rest with
    | none => rfl
    | some read => rfl
  · rw [escape, List.cons_append, readString, if_neg (by decide), if_pos rfl, read]
    simp only [Option.bind_eq_bind, Option.bind_some]
    cases readString fuel rest with
    | none => rfl
    | some read => rfl

/-- A quoted text is read up to its closing mark. -/
theorem readString_quoted (asciiOnly : Bool) (text : List Char) (rest : List Char) :
    ∀ fuel, text.length < fuel →
      readString fuel (text.flatMap (escapeChar asciiOnly) ++ '"' :: rest) = some (text, rest) := by
  induction text with
  | nil =>
      intro fuel enough
      obtain ⟨less, rfl⟩ := Nat.exists_eq_succ_of_ne_zero (Nat.ne_of_gt enough)
      rfl
  | cons c later ih =>
      intro fuel enough
      obtain ⟨less, rfl⟩ := Nat.exists_eq_succ_of_ne_zero (Nat.ne_of_gt (Nat.zero_lt_of_lt enough))
      have fewer : later.length < less := by
        rw [List.length_cons] at enough
        omega
      rw [List.flatMap_cons, List.append_assoc, readString_escapeChar, ih less fewer]
      rfl

/-- A text is no longer than it is in quotation marks. -/
theorem length_le_escaped (asciiOnly : Bool) (text : List Char) :
    text.length ≤ (text.flatMap (escapeChar asciiOnly)).length := by
  induction text with
  | nil => exact Nat.le_refl _
  | cons c rest ih =>
      have one : 1 ≤ (escapeChar asciiOnly c).length := by
        rcases escapeChar_spec asciiOnly c with ⟨plain, _⟩ | ⟨body, escape, _⟩
        · rw [plain]
          exact Nat.le_refl _
        · rw [escape, List.length_cons]
          omega
      rw [List.flatMap_cons, List.length_append, List.length_cons]
      omega

end OtcDesk.Json
