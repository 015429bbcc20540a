import OtcDesk.Proofs.Json.Encoding
import OtcDesk.Proofs.Json.Objects

namespace OtcDesk.Json

/-- An ASCII character that is not zero. -/
def IsAscii (point : Nat) : Prop := 0 < point ∧ point < 0x80

theorem IsAscii.ofNat {point : Nat} (ascii : IsAscii point) :
    UInt8.ofNat point ≠ 0 ∧ UInt8.ofNat point < 0x80 := by
  have number : (UInt8.ofNat point).toNat = point := Utf8.toNat_ofNat (by have := ascii.2; omega)
  constructor
  · intro zero
    rw [zero] at number
    exact absurd number.symm (Nat.pos_iff_ne_zero.mp ascii.1)
  · rw [UInt8.lt_iff_toNat_lt, number]
    exact ascii.2

theorem IsAscii.utf8Bytes {point : Nat} (ascii : IsAscii point) :
    utf8Bytes point = [UInt8.ofNat point] := by
  obtain ⟨above, below⟩ := ascii
  have whole : ¬ isHalf point = true := fun half => by
    have range := half_range half
    omega
  rw [Json.utf8Bytes, if_neg whole, Utf8.encodeChar, Utf8.toNat_charOf (by omega), if_pos below]

theorem IsAscii.pairBytes {point : Nat} (ascii : IsAscii point) (bigEndian : Bool) :
    (unitsOf point).flatMap (pairBytes bigEndian) = inOrder bigEndian [0, UInt8.ofNat point] := by
  obtain ⟨above, below⟩ := ascii
  have high : point / 0x100 = 0 := by omega
  rw [unitsOf_small (by omega), List.flatMap_singleton, Json.pairBytes, high]
  rfl

theorem IsAscii.quadBytes {point : Nat} (ascii : IsAscii point) (bigEndian : Bool) :
    quadBytes bigEndian point = inOrder bigEndian [0, 0, 0, UInt8.ofNat point] := by
  obtain ⟨above, below⟩ := ascii
  have first : point / 0x1000000 = 0 := by omega
  have second : point / 0x10000 = 0 := by omega
  have third : point / 0x100 = 0 := by omega
  rw [Json.quadBytes, first, second, third]
  rfl

/-- An ASCII byte begins no byte order mark. -/
theorem ne_of_lt {x : UInt8} (below : x < 0x80) : 0xff ≠ x ∧ 0xfe ≠ x ∧ 0xef ≠ x := by
  refine ⟨?_, ?_, ?_⟩ <;> (rintro rfl; exact absurd below (by decide))

section Detect

variable {x y : UInt8} (xSolid : x ≠ 0) (xBelow : x < 0x80)
include xSolid xBelow

theorem detect_narrow (ySolid : y ≠ 0) (rest : Bytes) :
    Encoding.detect (x :: y :: rest) = .utf8 := by
  obtain ⟨noMark, noOther, noNarrow⟩ := ne_of_lt xBelow
  -- two, three and more bytes are told apart
  rcases rest with _ | ⟨c, _ | ⟨d, later⟩⟩ <;>
    simp [Encoding.detect, xSolid, ySolid, xSolid.symm, noMark, noOther, noNarrow]

theorem detect_pairs (ySolid : y ≠ 0) (bigEndian marked : Bool) (rest : Bytes) :
    Encoding.detect ((Encoding.utf16 bigEndian marked).mark ++
      (inOrder bigEndian [0, x] ++ (inOrder bigEndian [0, y] ++ rest))) =
      .utf16 bigEndian marked := by
  obtain ⟨noMark, noOther, noNarrow⟩ := ne_of_lt xBelow
  cases bigEndian with
  | false =>
      cases marked with
      | false =>
          change Encoding.detect (x :: 0 :: y :: 0 :: rest) = _
          simp [Encoding.detect, xSolid, ySolid, xSolid.symm, noMark, noOther, noNarrow]
      | true =>
          change Encoding.detect (0xff :: 0xfe :: x :: 0 :: y :: 0 :: rest) = _
          simp [Encoding.detect, xSolid.symm]
  | true =>
      cases marked with
      | false =>
          change Encoding.detect (0 :: x :: 0 :: y :: rest) = _
          simp [Encoding.detect, xSolid, xSolid.symm]
      | true => rfl

theorem detect_quads (bigEndian marked : Bool) (rest : Bytes) :
    Encoding.detect ((Encoding.utf32 bigEndian marked).mark ++
      (inOrder bigEndian [0, 0, 0, x] ++ rest)) = .utf32 bigEndian marked := by
  obtain ⟨noMark, noOther, noNarrow⟩ := ne_of_lt xBelow
  cases bigEndian with
  | false =>
      cases marked with
      | false =>
          change Encoding.detect (x :: 0 :: 0 :: 0 :: rest) = _
          simp [Encoding.detect, xSolid, xSolid.symm, noMark, noOther, noNarrow]
      | true => rfl
  | true =>
      cases marked with
      | false =>
          change Encoding.detect (0 :: 0 :: 0 :: x :: rest) = _
          simp [Encoding.detect]
      | true => rfl

end Detect

/-- Two ASCII characters at the start of a text show its encoding. -/
theorem detect_encode (encoding : Encoding) {first second : Nat} (firstAscii : IsAscii first)
    (secondAscii : IsAscii second) (rest : List Nat) :
    Encoding.detect (encoding.encode (first :: second :: rest)) = encoding := by
  obtain ⟨firstSolid, firstBelow⟩ := firstAscii.ofNat
  obtain ⟨secondSolid, secondBelow⟩ := secondAscii.ofNat
  rw [Encoding.encode, List.flatMap_cons, List.flatMap_cons]
  generalize rest.flatMap encoding.pointBytes = later
  cases encoding with
  | utf8 =>
      rw [Encoding.pointBytes, Encoding.pointBytes, firstAscii.utf8Bytes, secondAscii.utf8Bytes]
      exact detect_narrow firstSolid firstBelow secondSolid later
  | utf8Marked => rfl
  | utf16 bigEndian marked =>
      rw [Encoding.pointBytes, Encoding.pointBytes, firstAscii.pairBytes, secondAscii.pairBytes]
      exact detect_pairs firstSolid firstBelow secondSolid bigEndian marked later
  | utf32 bigEndian marked =>
      rw [Encoding.pointBytes, firstAscii.quadBytes]
      exact detect_quads firstSolid firstBelow bigEndian marked _

theorem isAscii_of_isGap {c : Char} (gap : isGap c = true) : IsAscii c.toNat := by
  simp only [isGap, Bool.or_eq_true, beq_iff_eq] at gap
  obtain ((rfl | rfl) | rfl) | rfl := gap <;> exact ⟨by decide, by decide⟩

/-- White space and what follows it begin with an ASCII character if that does. -/
theorem ascii_of_skipGap {text : List Char} {c : Char} {rest : List Char}
    (skipped : skipGap text = c :: rest) (ascii : IsAscii c.toNat) :
    ∃ first later, text = first :: later ∧ IsAscii first.toNat := by
  cases text with
  | nil => cases skipped
  | cons first later =>
      refine ⟨first, later, rfl, ?_⟩
      by_cases gap : isGap first = true
      · exact isAscii_of_isGap gap
      · rw [skipGap, List.dropWhile_cons_of_neg gap] at skipped
        cases skipped
        exact ascii

/-- The fields of an object begin with a mark or with the closing brace. -/
theorem ascii_of_readOpened {fuel levels : Nat} {text : List Char}
    {read : List (String × Json) × List Char} (found : readOpened fuel levels text = .ok read) :
    ∃ first later, text = first :: later ∧ IsAscii first.toNat := by
  unfold readOpened at found
  split at found
  · exact ⟨_, _, rfl, by decide, by decide⟩
  · unfold readFields at found
    split at found
    · cases found
    · exact ⟨_, _, rfl, by decide, by decide⟩
    · cases found

theorem ascii_of_readList {text : List Char} {fields : List (String × Json)}
    (read : readList text = .ok (.obj fields)) :
    ∃ first second rest, text = first :: second :: rest ∧
      IsAscii first.toNat ∧ IsAscii second.toNat := by
  obtain ⟨after, found, -⟩ := readList_eq_ok.mp read
  obtain ⟨pairs, opened, -⟩ := readValue_obj_iff.mp found
  obtain ⟨later, brace⟩ := readPairs_brace opened
  rw [brace, readPairs] at opened
  obtain ⟨left, -, opened⟩ := enter_eq_ok.mp opened
  have braceAscii : IsAscii '\x7b'.toNat := ⟨by decide, by decide⟩
  cases text with
  | nil => cases brace
  | cons first rest =>
      by_cases gap : isGap first = true
      · have skipped : skipGap rest = '\x7b' :: later := by
          rw [← brace, skipGap, skipGap, List.dropWhile_cons_of_pos gap]
        obtain ⟨second, others, rfl, secondAscii⟩ := ascii_of_skipGap skipped braceAscii
        exact ⟨first, second, others, rfl, isAscii_of_isGap gap, secondAscii⟩
      · rw [skipGap, List.dropWhile_cons_of_neg gap] at brace
        cases brace
        obtain ⟨next, others, skipped, nextAscii⟩ := ascii_of_readOpened opened
        obtain ⟨second, others, rfl, secondAscii⟩ := ascii_of_skipGap skipped nextAscii
        exact ⟨_, second, others, rfl, braceAscii, secondAscii⟩

/-- An ASCII character is read from its own code point. -/
theorem isAscii_of_unitChar {point : Nat} (valid : point < 0x110000)
    (ascii : IsAscii (unitChar point).toNat) : IsAscii point := by
  rw [unitChar] at ascii
  split at ascii
  · exact absurd ascii.2 (by decide)
  · rename_i whole
    rwa [toNat_of_not_isHalf valid (Bool.eq_false_iff.mpr whole)] at ascii

/-- A body holds an object: it is a text that reads as this object, written in some encoding. -/
def HoldsObject (body : Bytes) (fields : List (String × Json)) : Prop :=
  ∃ (encoding : Encoding) (points : List Nat), encoding.Writes points ∧
    body = encoding.encode points ∧
    read? (String.ofList (points.map unitChar)) = some (.obj fields)

theorem readBody_eq_ok {body : Bytes} {value : Json} :
    readBody body = .ok value ↔
      ∃ points, bodyPoints? body = some points ∧ readList (points.map unitChar) = .ok value := by
  have bound : readBody body = expect (bodyText? body) >>= readList := rfl
  rw [bound, bind_eq_ok]
  constructor
  · rintro ⟨text, decoded, read⟩
    obtain ⟨points, found, rfl⟩ := Option.map_eq_some_iff.mp (expect_eq_ok.mp decoded)
    exact ⟨points, found, read⟩
  · rintro ⟨points, found, read⟩
    exact ⟨_, expect_eq_ok.mpr (congrArg (Option.map (List.map unitChar)) found), read⟩

/-- What begins with two ASCII characters is read in the encoding in which it was written. -/
theorem bodyPoints?_encode {encoding : Encoding} {points : List Nat}
    (writes : encoding.Writes points) {first second : Char} {rest : List Char}
    (starts : points.map unitChar = first :: second :: rest) (firstAscii : IsAscii first.toNat)
    (secondAscii : IsAscii second.toNat) :
    bodyPoints? (encoding.encode points) = some points := by
  obtain ⟨one, ones, rfl, rfl, others⟩ := List.map_eq_cons_iff.mp starts
  obtain ⟨two, later, rfl, rfl, -⟩ := List.map_eq_cons_iff.mp others
  have oneAscii := isAscii_of_unitChar (writes.valid one (by simp)) firstAscii
  have twoAscii := isAscii_of_unitChar (writes.valid two (by simp)) secondAscii
  rw [bodyPoints?_eq_some_iff, detect_encode encoding oneAscii twoAscii later]
  exact ⟨writes, rfl⟩

/-- A body is read as an object exactly if it holds this object. -/
theorem readBody?_obj_iff {body : Bytes} {fields : List (String × Json)} :
    readBody? body = some (.obj fields) ↔ HoldsObject body fields := by
  rw [readBody?, toOption_eq_some, readBody_eq_ok]
  simp only [HoldsObject, read?_eq_some, read, String.toList_ofList]
  constructor
  · rintro ⟨points, found, read⟩
    obtain ⟨writes, written⟩ := bodyPoints?_eq_some_iff.mp found
    exact ⟨_, points, writes, written, read⟩
  · rintro ⟨encoding, points, writes, rfl, read⟩
    obtain ⟨first, second, rest, starts, firstAscii, secondAscii⟩ := ascii_of_readList read
    exact ⟨points, bodyPoints?_encode writes starts firstAscii secondAscii, read⟩

/-- A body holds one object at most, however its encoding is understood. -/
theorem HoldsObject.unique {body : Bytes} {fields others : List (String × Json)}
    (holds : HoldsObject body fields) (also : HoldsObject body others) : fields = others := by
  have read := readBody?_obj_iff.mpr holds
  rw [readBody?_obj_iff.mpr also] at read
  cases read
  rfl

end OtcDesk.Json
