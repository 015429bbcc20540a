import OtcDesk.Proofs.Bytes.Hex
import OtcDesk.Proofs.Except

namespace OtcDesk.Hex

/-- A character is the digit of a value below sixteen, in either case. -/
def IsDigit (c : Char) (value : Nat) : Prop :=
  value < 16 ∧ (c = Text.hexDigit value ∨ c = (Text.hexDigit value).toUpper)

/-- The characters that have a value are the digits of that value. -/
theorem digit?_eq_some_iff {c : Char} {value : Nat} :
    digit? c = some value ↔ IsDigit c value := by
  constructor
  · have capital : ∀ value < 16, 10 ≤ value →
        Char.ofNat (0x37 + value) = (Text.hexDigit value).toUpper := by decide
    intro read
    rw [← Char.ofNat_toNat c]
    unfold digit? at read
    dsimp only at read
    split at read
    · rename_i range
      simp only [Bool.and_eq_true, decide_eq_true_eq] at range
      cases read
      refine ⟨by omega, .inl ?_⟩
      rw [Text.hexDigit, if_pos (by omega)]
      congr 1
      omega
    · split at read
      · rename_i range
        simp only [Bool.and_eq_true, decide_eq_true_eq] at range
        cases read
        refine ⟨by omega, .inl ?_⟩
        rw [Text.hexDigit, if_neg (by omega)]
        congr 1
        omega
      · split at read
        · rename_i range
          simp only [Bool.and_eq_true, decide_eq_true_eq] at range
          cases read
          refine ⟨by omega, .inr ?_⟩
          rw [← capital _ (by omega) (by omega)]
          congr 1
          omega
        · cases read
  · have known : ∀ value < 16, digit? (Text.hexDigit value) = some value ∧
        digit? (Text.hexDigit value).toUpper = some value := by decide
    rintro ⟨fits, rfl | rfl⟩
    · exact (known value fits).1
    · exact (known value fits).2

theorem IsDigit.solid {c : Char} {value : Nat} (digit : IsDigit c value) :
    c.toNat < 0x80 ∧ Text.isBlank c = false ∧ Text.isAsciiBlank c = false := by
  have small : ∀ value < 16, (Text.hexDigit value).toNat < 0x80 ∧
      Text.isBlank (Text.hexDigit value) = false ∧
      Text.isAsciiBlank (Text.hexDigit value) = false := by decide
  have large : ∀ value < 16, (Text.hexDigit value).toUpper.toNat < 0x80 ∧
      Text.isBlank (Text.hexDigit value).toUpper = false ∧
      Text.isAsciiBlank (Text.hexDigit value).toUpper = false := by decide
  rcases digit with ⟨fits, rfl | rfl⟩
  · exact small value fits
  · exact large value fits

theorem isBlank_of_isAsciiBlank {c : Char} (blank : Text.isAsciiBlank c = true) :
    c.toNat < 0x80 ∧ Text.isBlank c = true := by
  simp only [Text.isAsciiBlank, Text.isBlank, Bool.or_eq_true, Bool.and_eq_true, decide_eq_true_eq,
    beq_iff_eq] at blank ⊢
  omega

/-- These characters are ASCII blanks. -/
def Blanks (text : List Char) : Prop := ∀ c ∈ text, Text.isAsciiBlank c = true

/-- A text consists of pairs of digits with ASCII blanks before them, which are these bytes. -/
inductive Spells : List Char → Bytes → Prop where
  | nil : Spells [] []
  | pair {blanks rest : List Char} {high low : Char} {h l : Nat} {bytes : Bytes}
      (blank : Blanks blanks) (first : IsDigit high h) (second : IsDigit low l)
      (later : Spells rest bytes) :
      Spells (blanks ++ high :: low :: rest) (UInt8.ofNat (16 * h + l) :: bytes)

theorem Blanks.cons {c : Char} {text : List Char} (blank : Text.isAsciiBlank c = true)
    (later : Blanks text) : Blanks (c :: text) := by
  intro d member
  rcases List.mem_cons.mp member with rfl | member
  · exact blank
  · exact later d member

/-- A blank in front of pairs, or of nothing, belongs to what follows. -/
theorem Spells.cons_blank {c : Char} {pairs blanks : List Char} {bytes : Bytes}
    (blank : Text.isAsciiBlank c = true) (spells : Spells pairs bytes) (trailing : Blanks blanks) :
    ∃ others trail, c :: (pairs ++ blanks) = others ++ trail ∧ Spells others bytes ∧
      Blanks trail := by
  cases spells with
  | nil => exact ⟨[], c :: blanks, rfl, .nil, trailing.cons blank⟩
  | @pair front rest high low h l bytes within first second later =>
      exact ⟨c :: front ++ high :: low :: rest, blanks, rfl,
        .pair (within.cons blank) first second later, trailing⟩

theorem decodeFrom_blank {c : Char} (blank : Text.isAsciiBlank c = true) (position : Nat)
    (text : List Char) : decodeFrom position (c :: text) = decodeFrom (position + 1) text := by
  cases text with
  | nil => simp only [decodeFrom, blank, if_true]
  | cons d rest => rw [decodeFrom, if_pos blank]

theorem decodeFrom_blanks {blanks : List Char} (text : List Char) :
    Blanks blanks → ∀ position, decodeFrom position (blanks ++ text) =
      decodeFrom (position + blanks.length) text := by
  induction blanks with
  | nil => exact fun _ _ => rfl
  | cons c rest ih =>
      intro all position
      rw [List.cons_append, decodeFrom_blank (all c List.mem_cons_self),
        ih (fun d member => all d (List.mem_cons_of_mem _ member)), List.length_cons]
      congr 1
      omega

theorem decodeFrom_pair {high low : Char} {h l : Nat} (first : IsDigit high h)
    (second : IsDigit low l) (position : Nat) (rest : List Char) :
    decodeFrom position (high :: low :: rest) =
      (UInt8.ofNat (16 * h + l) :: ·) <$> decodeFrom (position + 2) rest := by
  rw [decodeFrom, if_neg (by rw [first.solid.2.2]; exact Bool.false_ne_true),
    digit?_eq_some_iff.mpr first, digit?_eq_some_iff.mpr second]

/-- What is spelled is read, whatever blanks follow it. -/
theorem Spells.decodeFrom {pairs blanks : List Char} {bytes : Bytes} (spells : Spells pairs bytes)
    (trailing : Blanks blanks) : ∀ position, decodeFrom position (pairs ++ blanks) = .ok bytes := by
  induction spells with
  | nil =>
      intro position
      have read := decodeFrom_blanks [] trailing position
      rw [List.append_nil] at read
      rw [List.nil_append, read, Hex.decodeFrom]
  | pair within first second later ih =>
      intro position
      rw [List.append_assoc, decodeFrom_blanks _ within, List.cons_append, List.cons_append,
        decodeFrom_pair first second, ih]
      rfl

/-- What is read is spelled, with blanks behind it. -/
theorem spells_of_decodeFrom (position : Nat) (text : List Char) : ∀ {bytes : Bytes},
    decodeFrom position text = .ok bytes →
      ∃ pairs blanks, text = pairs ++ blanks ∧ Spells pairs bytes ∧ Blanks blanks := by
  fun_induction decodeFrom position text with
  | case1 position =>
      rintro bytes ⟨⟩
      exact ⟨[], [], rfl, .nil, nofun⟩
  | case2 position high blank =>
      rintro bytes ⟨⟩
      exact ⟨[], [high], rfl, .nil, .cons blank nofun⟩
  | case3 position high solid => exact nofun
  | case4 position high low rest blank ih =>
      intro bytes read
      obtain ⟨pairs, blanks, same, spells, trailing⟩ := ih read
      rw [same]
      exact spells.cons_blank blank trailing
  | case5 position high low rest solid unknown => exact nofun
  | case6 position high low rest solid h first unknown => exact nofun
  | case7 position high low rest solid h l second first ih =>
      intro bytes read
      obtain ⟨later, readLater, rfl⟩ := map_eq_ok.mp read
      obtain ⟨pairs, blanks, rfl, spells, trailing⟩ := ih readLater
      have unspaced : Blanks [] := nofun
      exact ⟨high :: low :: pairs, blanks, rfl, .pair unspaced (digit?_eq_some_iff.mp first)
        (digit?_eq_some_iff.mp second) spells, trailing⟩

theorem Spells.ascii {pairs : List Char} {bytes : Bytes} (spells : Spells pairs bytes) :
    ∀ c ∈ pairs, c.toNat < 0x80 := by
  induction spells with
  | nil => exact nofun
  | pair within first second later ih =>
      intro c member
      rcases List.mem_append.mp member with blank | member
      · exact (isBlank_of_isAsciiBlank (within c blank)).1
      · rcases List.mem_cons.mp member with rfl | member
        · exact first.solid.1
        · rcases List.mem_cons.mp member with rfl | member
          · exact second.solid.1
          · exact ih c member

/-- A text is read exactly if it consists of pairs with ASCII blanks around them. -/
theorem decode_eq_ok_iff {text : String} {bytes : Bytes} : decode text = .ok bytes ↔
    ∃ pairs blanks, text.toList = pairs ++ blanks ∧ Spells pairs bytes ∧ Blanks blanks := by
  constructor
  · intro read
    rw [decode] at read
    split at read
    · cases read
    · exact spells_of_decodeFrom 0 _ read
  · rintro ⟨pairs, blanks, same, spells, trailing⟩
    have ascii : text.toList.findIdx? (0x80 ≤ ·.toNat) = none := by
      rw [List.findIdx?_eq_none_iff, same]
      intro c member
      have low : c.toNat < 0x80 := by
        rcases List.mem_append.mp member with pair | blank
        · exact spells.ascii c pair
        · exact (isBlank_of_isAsciiBlank (trailing c blank)).1
      simp only [decide_eq_false_iff_not]
      omega
    rw [decode, ascii, same]
    exact spells.decodeFrom trailing 0

end OtcDesk.Hex
