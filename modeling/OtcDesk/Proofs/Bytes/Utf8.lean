import OtcDesk.Bytes.Utf8

namespace OtcDesk.Utf8

theorem toNat_ofNat {value : Nat} (fits : value < 256) : (UInt8.ofNat value).toNat = value := by
  rw [UInt8.toNat_ofNat']
  omega

theorem toNat_tail (bits : Nat) : (tail bits).toNat = 0x80 + bits % 64 := by
  rw [tail, toNat_ofNat]
  omega

/-- A continuation byte within the range adds its six bits. -/
theorem continued_tail {low high : Nat} (count bits more : Nat) (rest : Bytes)
    (above : low ≤ 0x80 + more % 64) (below : 0x80 + more % 64 ≤ high) :
    continued (count + 1) low high bits (tail more :: rest) =
      continued count 0x80 0xbf (64 * bits + more % 64) rest := by
  have six : (0x80 + more % 64) % 64 = more % 64 := by omega
  simp [continued, toNat_tail, above, below, six]

/-- A later continuation byte has the whole range. -/
theorem continued_tail_whole (count bits more : Nat) (rest : Bytes) :
    continued (count + 1) 0x80 0xbf bits (tail more :: rest) =
      continued count 0x80 0xbf (64 * bits + more % 64) rest := by
  apply continued_tail
  · omega
  · omega

theorem lead_two {code : Nat} (above : 0x80 ≤ code) (below : code < 0x800) :
    lead? (0xc0 + code / 64) = some (1, 0x80, 0xbf, code / 64) := by
  unfold lead?
  have own : 0xc0 + code / 64 - 0xc0 = code / 64 := by omega
  rw [if_neg (by omega), if_neg (by omega), if_pos (by omega), own]

/-- The second of three bytes is in the range that the first allows. -/
theorem lead_three {code : Nat} (above : 0x800 ≤ code) (below : code < 0x10000)
    (valid : code < 0xd800 ∨ 0xdfff < code) :
    ∃ low high, lead? (0xe0 + code / 4096) = some (2, low, high, code / 4096) ∧
      low ≤ 0x80 + code / 64 % 64 ∧ 0x80 + code / 64 % 64 ≤ high := by
  unfold lead?
  rw [if_neg (by omega), if_neg (by omega), if_neg (by omega)]
  by_cases first : 0xe0 + code / 4096 = 0xe0
  · refine ⟨0xa0, 0xbf, ?_, by omega, by omega⟩
    have own : code / 4096 = 0 := by omega
    rw [if_pos first, own]
  · rw [if_neg first]
    by_cases surrogates : 0xe0 + code / 4096 = 0xed
    · refine ⟨0x80, 0x9f, ?_, by omega, by omega⟩
      have own : code / 4096 = 0xd := by omega
      rw [if_pos surrogates, own]
    · refine ⟨0x80, 0xbf, ?_, by omega, by omega⟩
      have own : 0xe0 + code / 4096 - 0xe0 = code / 4096 := by omega
      rw [if_neg surrogates, if_pos (by omega), own]

/-- The second of four bytes is in the range that the first allows. -/
theorem lead_four {code : Nat} (above : 0x10000 ≤ code) (below : code < 0x110000) :
    ∃ low high, lead? (0xf0 + code / 262144) = some (3, low, high, code / 262144) ∧
      low ≤ 0x80 + code / 4096 % 64 ∧ 0x80 + code / 4096 % 64 ≤ high := by
  unfold lead?
  rw [if_neg (by omega), if_neg (by omega), if_neg (by omega), if_neg (by omega),
    if_neg (by omega), if_neg (by omega)]
  by_cases first : 0xf0 + code / 262144 = 0xf0
  · refine ⟨0x90, 0xbf, ?_, by omega, by omega⟩
    have own : code / 262144 = 0 := by omega
    rw [if_pos first, own]
  · rw [if_neg first]
    by_cases last : 0xf0 + code / 262144 = 0xf4
    · refine ⟨0x80, 0x8f, ?_, by omega, by omega⟩
      have own : code / 262144 = 4 := by omega
      rw [if_neg (by omega), if_pos last, own]
    · refine ⟨0x80, 0xbf, ?_, by omega, by omega⟩
      have own : 0xf0 + code / 262144 - 0xf0 = code / 262144 := by omega
      rw [if_pos (by omega), own]

/-- A character has a number below `0x110000` that is no surrogate. -/
theorem char_range (c : Char) : c.toNat < 0xd800 ∨ 0xdfff < c.toNat ∧ c.toNat < 0x110000 := c.valid

/-- The first unit of a written character is that character. -/
theorem exists_unit_encodeChar (c : Char) (rest : Bytes) :
    ∃ b bytes, encodeChar c ++ rest = b :: bytes ∧ unit b bytes = (some c, rest) := by
  have range := char_range c
  have back : Char.ofNat c.toNat = c := Char.ofNat_toNat c
  unfold encodeChar
  dsimp only
  by_cases one : c.toNat < 0x80
  · have lead : lead? c.toNat = some (0, 0, 0, c.toNat) := by
      rw [lead?, if_pos one]
    rw [if_pos one, List.singleton_append]
    refine ⟨_, _, rfl, ?_⟩
    rw [unit, toNat_ofNat (by omega), lead]
    simp [continued, back]
  · rw [if_neg one]
    by_cases two : c.toNat < 0x800
    · have whole : 64 * (c.toNat / 64) + c.toNat % 64 = c.toNat := by omega
      rw [if_pos two, List.cons_append]
      refine ⟨_, _, rfl, ?_⟩
      rw [unit, toNat_ofNat (by omega), lead_two (by omega) two]
      simp only [List.cons_append, List.nil_append, continued_tail_whole, whole]
      simp [continued, back]
    · rw [if_neg two]
      by_cases three : c.toNat < 0x10000
      · obtain ⟨low, high, lead, above, below⟩ := lead_three (by omega) three (by omega)
        have whole : 64 * (64 * (c.toNat / 4096) + c.toNat / 64 % 64) + c.toNat % 64 = c.toNat := by
          omega
        rw [if_pos three, List.cons_append]
        refine ⟨_, _, rfl, ?_⟩
        rw [unit, toNat_ofNat (by omega), lead]
        simp only [List.cons_append, List.nil_append, continued_tail _ _ _ _ above below,
          continued_tail_whole, whole]
        simp [continued, back]
      · have four : 0x10000 ≤ c.toNat := by omega
        obtain ⟨low, high, lead, above, below⟩ := lead_four four (by omega)
        have whole : 64 * (64 * (64 * (c.toNat / 262144) + c.toNat / 4096 % 64) +
            c.toNat / 64 % 64) + c.toNat % 64 = c.toNat := by omega
        rw [if_neg three, List.cons_append]
        refine ⟨_, _, rfl, ?_⟩
        rw [unit, toNat_ofNat (by omega), lead]
        simp only [List.cons_append, List.nil_append, continued_tail _ _ _ _ above below,
          continued_tail_whole, whole]
        simp [continued, back]

theorem units_encodeChar (c : Char) (rest : Bytes) :
    units (encodeChar c ++ rest) = some c :: units rest := by
  obtain ⟨b, bytes, written, first⟩ := exists_unit_encodeChar c rest
  rw [written, units, first]

/-- The units of written characters are these characters. -/
theorem units_flatMap_encodeChar (text : List Char) :
    units (text.flatMap encodeChar) = text.map some := by
  induction text with
  | nil => simp [units]
  | cons c rest ih => rw [List.flatMap_cons, units_encodeChar, ih, List.map_cons]

theorem mapM_id_map_some {α : Type} (found : List α) : (found.map some).mapM id = some found := by
  induction found with
  | nil => rfl
  | cons first later ih => simp [ih]

/-- Every text is read back from its bytes. -/
theorem decode?_encode (text : String) : decode? (encode text) = some text := by
  rw [decode?, encode, units_flatMap_encodeChar, mapM_id_map_some]
  simp

/-- What a first byte says: how many bytes follow, the range of the next, and its own bits. -/
inductive Leads (b : Nat) : Nat × Nat × Nat × Nat → Prop where
  | one (below : b < 0x80) : Leads b (0, 0, 0, b)
  | two {bits : Nat} (mark : b = 0xc0 + bits) (above : 2 ≤ bits) (below : bits < 32) :
      Leads b (1, 0x80, 0xbf, bits)
  | three {low high bits : Nat} (mark : b = 0xe0 + bits) (below : bits < 16) (least : 0x80 ≤ low)
      (greatest : high ≤ 0xbf) (long : bits = 0 → 0xa0 ≤ low) (valid : bits = 0xd → high ≤ 0x9f) :
      Leads b (2, low, high, bits)
  | four {low high bits : Nat} (mark : b = 0xf0 + bits) (below : bits ≤ 4) (least : 0x80 ≤ low)
      (greatest : high ≤ 0xbf) (long : bits = 0 → 0x90 ≤ low) (valid : bits = 4 → high ≤ 0x8f) :
      Leads b (3, low, high, bits)

theorem leads_of_lead? {b : Nat} {lead : Nat × Nat × Nat × Nat} (known : lead? b = some lead) :
    Leads b lead := by
  unfold lead? at known
  split at known
  · cases known
    exact .one (by omega)
  split at known
  · cases known
  split at known
  · cases known
    exact .two (by omega) (by omega) (by omega)
  -- the three shapes of a first byte of three: one that keeps out shorter forms, one that keeps out
  -- surrogates, and the others
  iterate 3
    split at known
    · cases known
      exact .three (by omega) (by omega) (by omega) (by omega) (by omega) (by omega)
  iterate 3
    split at known
    · cases known
      exact .four (by omega) (by omega) (by omega) (by omega) (by omega) (by omega)
  cases known

/-- A continuation byte that was taken is within the range, and has added its six bits. -/
theorem exists_tail {count low high bits code : Nat} {bytes later : Bytes} (least : 0x80 ≤ low)
    (greatest : high ≤ 0xbf)
    (taken : continued (count + 1) low high bits bytes = (some code, later)) :
    ∃ more rest, bytes = tail more :: rest ∧ more < 64 ∧ low ≤ 0x80 + more ∧ 0x80 + more ≤ high ∧
      continued count 0x80 0xbf (64 * bits + more) rest = (some code, later) := by
  cases bytes with
  | nil => cases taken
  | cons b rest =>
      rw [continued] at taken
      split at taken
      · rename_i within
        simp only [Bool.and_eq_true, decide_eq_true_eq] at within
        obtain ⟨above, below⟩ := within
        have six : b.toNat % 64 = b.toNat - 0x80 := by omega
        have whole : 0x80 + (b.toNat - 0x80) % 64 = b.toNat := by omega
        rw [six] at taken
        refine ⟨b.toNat - 0x80, rest, ?_, by omega, by omega, by omega, taken⟩
        rw [tail, whole, UInt8.ofNat_toNat]
      · cases taken

theorem eq_of_continued_zero {low high bits code : Nat} {bytes later : Bytes}
    (taken : continued 0 low high bits bytes = (some code, later)) : bits = code ∧ bytes = later := by
  cases taken
  exact ⟨rfl, rfl⟩

theorem toNat_charOf {code : Nat} (valid : code < 0xd800 ∨ 0xdfff < code ∧ code < 0x110000) :
    (Char.ofNat code).toNat = code := by
  have isValid : code.isValidChar := valid
  rw [Char.ofNat, dif_pos isValid]
  rfl

theorem tail_of_mod {bits more : Nat} (same : bits % 64 = more % 64) : tail bits = tail more := by
  rw [tail, tail, same]

theorem encodeChar_two {bits x : Nat} (above : 2 ≤ bits) (below : bits < 32) (xFits : x < 64) :
    encodeChar (Char.ofNat (64 * bits + x)) = [UInt8.ofNat (0xc0 + bits), tail x] := by
  have first : (64 * bits + x) / 64 = bits := by omega
  have last : tail (64 * bits + x) = tail x := tail_of_mod (by omega)
  rw [encodeChar, toNat_charOf (by omega), if_neg (by omega), if_pos (by omega), first, last]

theorem encodeChar_three {bits x y : Nat} (long : bits = 0 → 32 ≤ x)
    (valid : bits = 0xd → x < 32) (below : bits < 16) (xFits : x < 64) (yFits : y < 64) :
    encodeChar (Char.ofNat (64 * (64 * bits + x) + y)) =
      [UInt8.ofNat (0xe0 + bits), tail x, tail y] := by
  have first : (64 * (64 * bits + x) + y) / 4096 = bits := by omega
  have second : tail ((64 * (64 * bits + x) + y) / 64) = tail x := tail_of_mod (by omega)
  have last : tail (64 * (64 * bits + x) + y) = tail y := tail_of_mod (by omega)
  rw [encodeChar, toNat_charOf (by omega), if_neg (by omega), if_neg (by omega), if_pos (by omega),
    first, second, last]

theorem encodeChar_four {bits x y z : Nat} (long : bits = 0 → 16 ≤ x) (valid : bits = 4 → x < 16)
    (below : bits ≤ 4) (xFits : x < 64) (yFits : y < 64) (zFits : z < 64) :
    encodeChar (Char.ofNat (64 * (64 * (64 * bits + x) + y) + z)) =
      [UInt8.ofNat (0xf0 + bits), tail x, tail y, tail z] := by
  have first : (64 * (64 * (64 * bits + x) + y) + z) / 262144 = bits := by omega
  have second : tail ((64 * (64 * (64 * bits + x) + y) + z) / 4096) = tail x :=
    tail_of_mod (by omega)
  have third : tail ((64 * (64 * (64 * bits + x) + y) + z) / 64) = tail y := tail_of_mod (by omega)
  have last : tail (64 * (64 * (64 * bits + x) + y) + z) = tail z := tail_of_mod (by omega)
  rw [encodeChar, toNat_charOf (by omega), if_neg (by omega), if_neg (by omega), if_neg (by omega),
    first, second, third, last]

/-- A first byte with its continuation bytes is what the character is written as. -/
theorem encodeChar_of_continued {b : UInt8} {count low high bits code : Nat} {rest later : Bytes}
    (leads : Leads b.toNat (count, low, high, bits))
    (taken : continued count low high bits rest = (some code, later)) :
    encodeChar (Char.ofNat code) ++ later = b :: rest := by
  cases leads with
  | one below =>
      obtain ⟨rfl, rfl⟩ := eq_of_continued_zero taken
      rw [encodeChar, toNat_charOf (by omega), if_pos below, UInt8.ofNat_toNat]
      rfl
  | two mark above below =>
      obtain ⟨x, _, rfl, xFits, _, _, taken⟩ := exists_tail (by omega) (by omega) taken
      obtain ⟨rfl, rfl⟩ := eq_of_continued_zero taken
      rw [encodeChar_two above below xFits, ← mark, UInt8.ofNat_toNat]
      rfl
  | three mark below least greatest long valid =>
      obtain ⟨x, _, rfl, xFits, _, _, taken⟩ := exists_tail least greatest taken
      obtain ⟨y, _, rfl, yFits, _, _, taken⟩ := exists_tail (by omega) (by omega) taken
      obtain ⟨rfl, rfl⟩ := eq_of_continued_zero taken
      rw [encodeChar_three (by omega) (by omega) below xFits yFits, ← mark, UInt8.ofNat_toNat]
      rfl
  | four mark below least greatest long valid =>
      obtain ⟨x, _, rfl, xFits, _, _, taken⟩ := exists_tail least greatest taken
      obtain ⟨y, _, rfl, yFits, _, _, taken⟩ := exists_tail (by omega) (by omega) taken
      obtain ⟨z, _, rfl, zFits, _, _, taken⟩ := exists_tail (by omega) (by omega) taken
      obtain ⟨rfl, rfl⟩ := eq_of_continued_zero taken
      rw [encodeChar_four (by omega) (by omega) below xFits yFits zFits, ← mark, UInt8.ofNat_toNat]
      rfl

/-- A unit that is a character consists of the bytes that the character is written as. -/
theorem encodeChar_of_unit {b : UInt8} {rest later : Bytes} {c : Char}
    (known : unit b rest = (some c, later)) : encodeChar c ++ later = b :: rest := by
  cases lead : lead? b.toNat with
  | none =>
      rw [unit, lead] at known
      cases known
  | some found =>
      obtain ⟨count, low, high, bits⟩ := found
      rw [unit, lead] at known
      dsimp only at known
      cases taken : continued count low high bits rest with
      | mk code? left =>
          rw [taken] at known
          cases code? with
          | none => cases known
          | some code =>
              cases known
              exact encodeChar_of_continued (leads_of_lead? lead) taken

/-- Bytes whose units are characters are what these characters are written as. -/
theorem flatMap_encodeChar_of_units (text : List Char) :
    ∀ bytes, units bytes = text.map some → text.flatMap encodeChar = bytes := by
  induction text with
  | nil =>
      intro bytes known
      cases bytes with
      | nil => rfl
      | cons b rest =>
          rw [units] at known
          cases known
  | cons c text ih =>
      intro bytes known
      cases bytes with
      | nil =>
          rw [units] at known
          cases known
      | cons b rest =>
          rw [units, List.map_cons] at known
          obtain ⟨first, others⟩ := List.cons.inj known
          have whole : unit b rest = (some c, (unit b rest).2) := Prod.ext first rfl
          rw [List.flatMap_cons, ih _ others, encodeChar_of_unit whole]

theorem eq_map_some_of_mapM {α : Type} {found : List (Option α)} :
    ∀ {all : List α}, found.mapM id = some all → found = all.map some := by
  induction found with
  | nil =>
      intro all known
      cases known
      rfl
  | cons first later ih =>
      intro all known
      cases first with
      | none => cases known
      | some value =>
          rw [List.mapM_cons] at known
          cases rest : later.mapM id with
          | none =>
              rw [rest] at known
              cases known
          | some others =>
              rw [rest] at known
              cases known
              rw [List.map_cons, ih rest]

/-- Decoding is strict: bytes that are read as a text are the bytes of that text. -/
theorem encode_of_decode? {bytes : Bytes} {text : String} (decoded : decode? bytes = some text) :
    encode text = bytes := by
  obtain ⟨characters, known, rfl⟩ := Option.map_eq_some_iff.mp decoded
  rw [encode, String.toList_ofList]
  exact flatMap_encodeChar_of_units characters bytes (eq_map_some_of_mapM known)

end OtcDesk.Utf8
