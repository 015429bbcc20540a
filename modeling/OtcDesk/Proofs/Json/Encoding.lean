import Mathlib.Data.List.Chain
import OtcDesk.Json.Body
import OtcDesk.Proofs.Bytes.Utf8

namespace OtcDesk.Json

/-- Half a surrogate pair. -/
def isHalf (point : Nat) : Bool := isHighSurrogate point || isLowSurrogate point

/-- A code point in UTF-8, where half a pair takes three bytes as its neighbours do. -/
def utf8Bytes (point : Nat) : Bytes :=
  if isHalf point then
    [UInt8.ofNat (0xe0 + point / 4096), Utf8.tail (point / 64), Utf8.tail point]
  else Utf8.encodeChar (Char.ofNat point)

/-- The sixteen-bit units of a code point: its number, or else the two halves of a pair. -/
def unitsOf (point : Nat) : List Nat :=
  if point < 0x10000 then [point]
  else [0xd800 + (point - 0x10000) / 0x400, 0xdc00 + (point - 0x10000) % 0x400]

/-- Bytes that are given with the highest first, in an order of bytes. -/
def inOrder (bigEndian : Bool) (bytes : Bytes) : Bytes :=
  if bigEndian then bytes else bytes.reverse

/-- A number in two bytes. -/
def pairBytes (bigEndian : Bool) (unit : Nat) : Bytes :=
  inOrder bigEndian [UInt8.ofNat (unit / 0x100), UInt8.ofNat unit]

/-- A number in four bytes. -/
def quadBytes (bigEndian : Bool) (code : Nat) : Bytes :=
  inOrder bigEndian [UInt8.ofNat (code / 0x1000000), UInt8.ofNat (code / 0x10000),
    UInt8.ofNat (code / 0x100), UInt8.ofNat code]

namespace Encoding

/-- The bytes of a code point. -/
def pointBytes : Encoding → Nat → Bytes
  | utf8, point | utf8Marked, point => utf8Bytes point
  | utf16 bigEndian _, point => (unitsOf point).flatMap (pairBytes bigEndian)
  | utf32 bigEndian _, point => quadBytes bigEndian point

/-- An encoding begins with a byte order mark. -/
def isMarked : Encoding → Bool
  | utf8 => false
  | utf8Marked => true
  | utf16 _ marked | utf32 _ marked => marked

/-- The byte order mark of an encoding, if it has one. -/
def mark (encoding : Encoding) : Bytes :=
  if encoding.isMarked then encoding.pointBytes 0xfeff else []

/-- The bytes of a text behind the byte order mark. -/
def encode (encoding : Encoding) (points : List Nat) : Bytes :=
  encoding.mark ++ points.flatMap encoding.pointBytes

end Encoding

/-- Two halves that do not join into a pair. -/
def Apart (first second : Nat) : Prop :=
  ¬ (isHighSurrogate first = true ∧ isLowSurrogate second = true)

/-- Code points that can be written in an encoding, without halves that would join. -/
structure Encoding.Writes (encoding : Encoding) (points : List Nat) : Prop where
  valid : ∀ point ∈ points, point < 0x110000
  apart : ∀ bigEndian marked, encoding = .utf16 bigEndian marked → points.IsChain Apart

/-- A reader that takes one number after another reads all of them from what they are written as. -/
theorem reads_flatMap {read : Bytes → Option (List Nat)} {write : Nat → Bytes} {bound : Nat}
    (empty : read [] = some [])
    (takes : ∀ number rest, number < bound →
      read (write number ++ rest) = (number :: ·) <$> read rest) {numbers : List Nat} :
    (∀ number ∈ numbers, number < bound) → read (numbers.flatMap write) = some numbers := by
  induction numbers with
  | nil => exact fun _ => empty
  | cons number later ih =>
      intro fit
      rw [List.forall_mem_cons] at fit
      rw [List.flatMap_cons, takes number _ fit.1, ih fit.2]
      rfl

theorem pairs?_pairBytes (bigEndian : Bool) {unit : Nat} (fits : unit < 0x10000) (rest : Bytes) :
    pairs? bigEndian (pairBytes bigEndian unit ++ rest) = (unit :: ·) <$> pairs? bigEndian rest := by
  have high : (UInt8.ofNat (unit / 0x100)).toNat = unit / 0x100 := Utf8.toNat_ofNat (by omega)
  have low : (UInt8.ofNat unit).toNat = unit % 0x100 := UInt8.toNat_ofNat'
  have whole : unit / 0x100 * 256 + unit % 0x100 = unit := by omega
  cases bigEndian <;> simp [pairBytes, inOrder, pairs?, high, low, whole]

theorem pairs?_flatMap (bigEndian : Bool) {units : List Nat}
    (fit : ∀ unit ∈ units, unit < 0x10000) :
    pairs? bigEndian (units.flatMap (pairBytes bigEndian)) = some units :=
  reads_flatMap rfl (fun _ rest fits => pairs?_pairBytes bigEndian fits rest) fit

theorem ofNat_eq (b : UInt8) {value : Nat} (same : value % 256 = b.toNat) :
    UInt8.ofNat value = b := by
  apply UInt8.toNat_inj.mp
  rw [UInt8.toNat_ofNat', ← same]

theorem pairBytes_toNat (bigEndian : Bool) (a b : UInt8) :
    pairBytes bigEndian (a.toNat * 256 + b.toNat) = inOrder bigEndian [a, b] := by
  have aBelow := a.toNat_lt
  have bBelow := b.toNat_lt
  rw [pairBytes, ofNat_eq a (by omega), ofNat_eq b (by omega)]

theorem flatMap_of_pairs? (bigEndian : Bool) (body : Bytes) : ∀ {units : List Nat},
    pairs? bigEndian body = some units →
      body = units.flatMap (pairBytes bigEndian) ∧ ∀ unit ∈ units, unit < 0x10000 := by
  induction body using pairs?.induct bigEndian with
  | case1 =>
      rintro units ⟨⟩
      exact ⟨rfl, nofun⟩
  | case2 a b rest ih =>
      intro units read
      rw [pairs?] at read
      obtain ⟨later, found, rfl⟩ := Option.map_eq_some_iff.mp read
      obtain ⟨same, fit⟩ := ih found
      have aBelow := a.toNat_lt
      have bBelow := b.toNat_lt
      rw [List.flatMap_cons, ← same, List.forall_mem_cons]
      cases bigEndian with
      | false =>
          refine ⟨?_, ?_, fit⟩
          · rw [if_neg Bool.false_ne_true, pairBytes_toNat]
            rfl
          · rw [if_neg Bool.false_ne_true]
            omega
      | true =>
          refine ⟨?_, ?_, fit⟩
          · rw [if_pos rfl, pairBytes_toNat]
            rfl
          · rw [if_pos rfl]
            omega
  | case3 body notEmpty notPair =>
      intro units read
      rw [pairs?] at read
      · cases read
      · exact notEmpty
      · exact notPair

theorem quads?_quadBytes (bigEndian : Bool) {code : Nat} (fits : code < 0x100000000)
    (rest : Bytes) :
    quads? bigEndian (quadBytes bigEndian code ++ rest) = (code :: ·) <$> quads? bigEndian rest := by
  have whole : ((code / 0x1000000 % 256 * 256 + code / 0x10000 % 256) * 256 +
      code / 0x100 % 256) * 256 + code % 256 = code := by omega
  cases bigEndian <;> simp [quadBytes, inOrder, quads?, UInt8.toNat_ofNat', whole]

theorem quads?_flatMap (bigEndian : Bool) {codes : List Nat}
    (fit : ∀ code ∈ codes, code < 0x100000000) :
    quads? bigEndian (codes.flatMap (quadBytes bigEndian)) = some codes :=
  reads_flatMap rfl (fun _ rest fits => quads?_quadBytes bigEndian fits rest) fit

theorem quadBytes_toNat (bigEndian : Bool) (a b c d : UInt8) :
    quadBytes bigEndian ([a, b, c, d].foldl (fun code byte => code * 256 + byte.toNat) 0) =
      inOrder bigEndian [a, b, c, d] := by
  have aBelow := a.toNat_lt
  have bBelow := b.toNat_lt
  have cBelow := c.toNat_lt
  have dBelow := d.toNat_lt
  simp only [List.foldl_cons, List.foldl_nil]
  rw [quadBytes, ofNat_eq a (by omega), ofNat_eq b (by omega), ofNat_eq c (by omega),
    ofNat_eq d (by omega)]

theorem flatMap_of_quads? (bigEndian : Bool) (body : Bytes) : ∀ {codes : List Nat},
    quads? bigEndian body = some codes → body = codes.flatMap (quadBytes bigEndian) := by
  induction body using quads?.induct bigEndian with
  | case1 =>
      rintro units ⟨⟩
      rfl
  | case2 a b c d rest ih =>
      intro codes read
      rw [quads?] at read
      obtain ⟨later, found, rfl⟩ := Option.map_eq_some_iff.mp read
      rw [List.flatMap_cons, ← ih found]
      cases bigEndian with
      | false =>
          rw [if_neg Bool.false_ne_true, quadBytes_toNat]
          rfl
      | true =>
          rw [if_pos rfl, quadBytes_toNat]
          rfl
  | case3 body notEmpty notQuad =>
      intro codes read
      rw [quads?] at read
      · cases read
      · exact notEmpty
      · exact notQuad

theorem unitsOf_fit {point : Nat} (valid : point < 0x110000) :
    ∀ unit ∈ unitsOf point, unit < 0x10000 := by
  unfold unitsOf
  split
  · simpa using ‹point < 0x10000›
  · intro unit member
    simp only [List.mem_cons, List.not_mem_nil, or_false] at member
    omega

theorem unitsOf_small {point : Nat} (small : point < 0x10000) : unitsOf point = [point] :=
  if_pos small

/-- The two halves of a pair are the units of the code point that they join into. -/
theorem unitsOf_pair {high low : Nat} (first : isHighSurrogate high = true)
    (second : isLowSurrogate low = true) :
    unitsOf (0x10000 + (high - 0xd800) * 0x400 + (low - 0xdc00)) = [high, low] := by
  simp only [isHighSurrogate, isLowSurrogate, Bool.and_eq_true, decide_eq_true_eq] at first second
  generalize whole : 0x10000 + (high - 0xd800) * 0x400 + (low - 0xdc00) = point
  have large : ¬ point < 0x10000 := by omega
  have back : 0xd800 + (point - 0x10000) / 0x400 = high := by omega
  have rest : 0xdc00 + (point - 0x10000) % 0x400 = low := by omega
  rw [unitsOf, if_neg large, back, rest]

/-- The units of the code points into which units join are these units. -/
theorem flatMap_joinUnits (units : List Nat) :
    (∀ unit ∈ units, unit < 0x10000) → (joinUnits units).flatMap unitsOf = units := by
  fun_induction joinUnits units with
  | case1 => exact fun _ => rfl
  | case2 unit =>
      intro fit
      rw [List.flatMap_singleton, unitsOf_small (fit unit List.mem_cons_self)]
  | case3 high low rest pair ih =>
      intro fit
      obtain ⟨first, second⟩ := Bool.and_eq_true_iff.mp pair
      rw [List.flatMap_cons, ih fun unit member => fit unit (by simp [member]),
        unitsOf_pair first second]
      rfl
  | case4 high low rest alone ih =>
      intro fit
      rw [List.flatMap_cons, ih fun unit member => fit unit (List.mem_cons_of_mem _ member),
        unitsOf_small (fit high List.mem_cons_self)]
      rfl

theorem joinUnits_valid (units : List Nat) : (∀ unit ∈ units, unit < 0x10000) →
    ∀ point ∈ joinUnits units, point < 0x110000 := by
  fun_induction joinUnits units with
  | case1 => exact fun _ => nofun
  | case2 unit =>
      intro fit
      have small := fit unit List.mem_cons_self
      simpa using Nat.lt_trans small (by decide)
  | case3 high low rest pair ih =>
      intro fit
      have later := ih fun unit member => fit unit (by simp [member])
      simp only [Bool.and_eq_true, isHighSurrogate, isLowSurrogate, decide_eq_true_eq] at pair
      rw [List.forall_mem_cons]
      exact ⟨by omega, later⟩
  | case4 high low rest alone ih =>
      intro fit
      have later := ih fun unit member => fit unit (List.mem_cons_of_mem _ member)
      have small := fit high List.mem_cons_self
      rw [List.forall_mem_cons]
      exact ⟨by omega, later⟩

/-- The first code point is the first unit unless this is half of a pair that joins. -/
theorem head?_joinUnits (first : Nat) (rest : List Nat) :
    ∃ point, (joinUnits (first :: rest)).head? = some point ∧
      (point = first ∨ 0x10000 ≤ point) := by
  cases rest with
  | nil => exact ⟨first, rfl, .inl rfl⟩
  | cons second rest =>
      rw [joinUnits]
      split
      · exact ⟨_, rfl, .inr (by omega)⟩
      · exact ⟨first, rfl, .inl rfl⟩

/-- What is left unjoined does not join. -/
theorem joinUnits_apart (units : List Nat) : (joinUnits units).IsChain Apart := by
  fun_induction joinUnits units with
  | case1 => exact .nil
  | case2 unit => exact .singleton unit
  | case3 high low rest pair ih =>
      rw [List.isChain_cons]
      refine ⟨?_, ih⟩
      rintro point - ⟨joined, -⟩
      simp only [isHighSurrogate, Bool.and_eq_true, decide_eq_true_eq] at joined
      omega
  | case4 high low rest alone ih =>
      rw [List.isChain_cons]
      refine ⟨?_, ih⟩
      obtain ⟨head, found, origin⟩ := head?_joinUnits low rest
      rw [found]
      rintro point ⟨⟩ ⟨first, second⟩
      rcases origin with rfl | large
      · exact alone (Bool.and_eq_true_iff.mpr ⟨first, second⟩)
      · simp only [isLowSurrogate, Bool.and_eq_true, decide_eq_true_eq] at second
        omega

/-- A unit that does not join with the next one stands for itself. -/
theorem joinUnits_cons {unit : Nat} {rest : List Nat} (apart : ∀ next ∈ rest.head?, Apart unit next) :
    joinUnits (unit :: rest) = unit :: joinUnits rest := by
  cases rest with
  | nil => rfl
  | cons next rest =>
      have alone := apart next rfl
      rw [Apart, ← Bool.and_eq_true_iff] at alone
      rw [joinUnits, if_neg alone]

/-- The first unit of a code point beyond sixteen bits is no second half. -/
theorem apart_head?_unitsOf {unit point : Nat} (apart : Apart unit point) (valid : point < 0x110000)
    (rest : List Nat) : ∀ next ∈ (unitsOf point ++ rest).head?, Apart unit next := by
  unfold unitsOf
  split
  · rintro next ⟨⟩
    exact apart
  · rintro next ⟨⟩ ⟨-, second⟩
    simp only [isLowSurrogate, Bool.and_eq_true, decide_eq_true_eq] at second
    omega

/-- Code points that do not join are read from their units. -/
theorem joinUnits_flatMap {points : List Nat} : (∀ point ∈ points, point < 0x110000) →
    points.IsChain Apart → joinUnits (points.flatMap unitsOf) = points := by
  induction points with
  | nil => exact fun _ _ => rfl
  | cons point later ih =>
      intro valid apart
      rw [List.forall_mem_cons] at valid
      rw [List.isChain_cons] at apart
      obtain ⟨fits, laterValid⟩ := valid
      have read := ih laterValid apart.2
      rw [List.flatMap_cons]
      by_cases small : point < 0x10000
      · have unjoined : ∀ next ∈ (later.flatMap unitsOf).head?, Apart point next := by
          cases later with
          | nil => exact nofun
          | cons second others =>
              exact apart_head?_unitsOf (apart.1 second rfl) (laterValid second List.mem_cons_self) _
        rw [unitsOf_small small, List.singleton_append, joinUnits_cons unjoined, read]
      · have first : isHighSurrogate (0xd800 + (point - 0x10000) / 0x400) = true := by
          simp only [isHighSurrogate, Bool.and_eq_true, decide_eq_true_eq]
          omega
        have second : isLowSurrogate (0xdc00 + (point - 0x10000) % 0x400) = true := by
          simp only [isLowSurrogate, Bool.and_eq_true, decide_eq_true_eq]
          omega
        have whole : 0x10000 + (0xd800 + (point - 0x10000) / 0x400 - 0xd800) * 0x400 +
            (0xdc00 + (point - 0x10000) % 0x400 - 0xdc00) = point := by omega
        rw [unitsOf, if_neg small]
        simp only [List.cons_append, List.nil_append]
        rw [joinUnits, if_pos (Bool.and_eq_true_iff.mpr ⟨first, second⟩), whole, read]

theorem half_range {point : Nat} (half : isHalf point = true) :
    0xd800 ≤ point ∧ point < 0xe000 := by
  simp only [isHalf, isHighSurrogate, isLowSurrogate, Bool.or_eq_true, Bool.and_eq_true,
    decide_eq_true_eq] at half
  omega

theorem isHalf_of_range {point : Nat} (above : 0xd800 ≤ point) (below : point < 0xe000) :
    isHalf point = true := by
  simp only [isHalf, isHighSurrogate, isLowSurrogate, Bool.or_eq_true, Bool.and_eq_true,
    decide_eq_true_eq]
  omega

theorem not_isHalf_toNat (c : Char) : isHalf c.toNat = false := by
  rw [Bool.eq_false_iff]
  intro half
  have halfRange := half_range half
  have charRange := Utf8.char_range c
  omega

/-- A code point that is no half is that of a character. -/
theorem toNat_of_not_isHalf {point : Nat} (valid : point < 0x110000) (whole : isHalf point = false) :
    (Char.ofNat point).toNat = point := by
  apply Utf8.toNat_charOf
  by_contra outside
  have half : isHalf point = true := isHalf_of_range (by omega) (by omega)
  rw [whole] at half
  cases half

/-- What is taken as half a pair is what that half is written as. -/
theorem utf8Bytes_of_half? {b : UInt8} {rest later : Bytes} {half : Nat}
    (taken : half? b rest = some (half, later)) :
    isHalf half = true ∧ utf8Bytes half ++ later = b :: rest := by
  unfold half? at taken
  split at taken
  · rename_i x y after
    split at taken
    · rename_i shape
      simp only [Bool.and_eq_true, decide_eq_true_eq] at shape
      obtain ⟨⟨⟨⟨first, xAbove⟩, xBelow⟩, yAbove⟩, yBelow⟩ := shape
      cases taken
      have isHalf : isHalf (0xd000 + x.toNat % 64 * 64 + y.toNat % 64) = true :=
        isHalf_of_range (by omega) (by omega)
      refine ⟨isHalf, ?_⟩
      rw [utf8Bytes, if_pos isHalf, Utf8.tail, Utf8.tail, ofNat_eq b (by omega),
        ofNat_eq x (by omega), ofNat_eq y (by omega)]
      rfl
    · cases taken
  · cases taken

/-- Half a pair is taken from what it is written as. -/
theorem half?_utf8Bytes {half : Nat} (isHalf : isHalf half = true) (rest : Bytes) :
    ∃ b bytes, utf8Bytes half ++ rest = b :: bytes ∧ half? b bytes = some (half, rest) := by
  obtain ⟨above, below⟩ := half_range isHalf
  have first : (UInt8.ofNat (0xe0 + half / 4096)).toNat = 0xed := by
    rw [Utf8.toNat_ofNat (by omega)]
    omega
  have whole : 0xd000 + (0x80 + half / 64 % 64) % 64 * 64 + (0x80 + half % 64) % 64 = half := by
    omega
  rw [utf8Bytes, if_pos isHalf]
  refine ⟨_, Utf8.tail (half / 64) :: Utf8.tail half :: rest, rfl, ?_⟩
  simp only [half?, first, Utf8.toNat_tail, whole]
  rw [if_pos]
  simp only [Bool.and_eq_true, decide_eq_true_eq, true_and]
  omega

/-- Half a pair is no character. -/
theorem unit_of_half? {b : UInt8} {rest : Bytes} {found : Nat × Bytes}
    (taken : half? b rest = some found) : (Utf8.unit b rest).1 = none := by
  unfold half? at taken
  split at taken
  · rename_i x y after
    split at taken
    · rename_i shape
      simp only [Bool.and_eq_true, decide_eq_true_eq] at shape
      obtain ⟨⟨⟨⟨first, above⟩, -⟩, -⟩, -⟩ := shape
      have lead : Utf8.lead? 0xed = some (2, 0x80, 0x9f, 0xd) := by decide
      have outside : (0x80 ≤ x.toNat && x.toNat ≤ 0x9f) = false := by
        rw [Bool.eq_false_iff]
        simp only [ne_eq, Bool.and_eq_true, decide_eq_true_eq]
        omega
      rw [Utf8.unit, first, lead]
      simp only [Utf8.continued, outside]
      rfl
    · cases taken
  · cases taken

/-- The first code point of written ones is the first of them. -/
theorem utf8Points_utf8Bytes {point : Nat} (valid : point < 0x110000) (rest : Bytes) :
    utf8Points (utf8Bytes point ++ rest) = some point :: utf8Points rest := by
  by_cases half : isHalf point = true
  · obtain ⟨b, bytes, written, taken⟩ := half?_utf8Bytes half rest
    rw [written, utf8Points, utf8Point, taken]
  · rw [Bool.not_eq_true] at half
    obtain ⟨b, bytes, written, first⟩ := Utf8.exists_unit_encodeChar (Char.ofNat point) rest
    have whole : half? b bytes = none := by
      cases taken : half? b bytes with
      | none => rfl
      | some found =>
          have broken := unit_of_half? taken
          rw [first] at broken
          cases broken
    rw [utf8Bytes, if_neg (by simp [half]), written, utf8Points, utf8Point, whole, first,
      Option.map_some, toNat_of_not_isHalf valid half]

theorem utf8Points_flatMap {points : List Nat} : (∀ point ∈ points, point < 0x110000) →
    utf8Points (points.flatMap utf8Bytes) = points.map some := by
  induction points with
  | nil =>
      intro _
      rw [List.flatMap_nil, utf8Points, List.map_nil]
  | cons point later ih =>
      intro valid
      rw [List.forall_mem_cons] at valid
      rw [List.flatMap_cons, utf8Points_utf8Bytes valid.1, ih valid.2, List.map_cons]

/-- A code point that was read is valid, and consists of the bytes that it is written as. -/
theorem utf8Bytes_of_utf8Point {b : UInt8} {rest later : Bytes} {point : Nat}
    (known : utf8Point b rest = (some point, later)) :
    point < 0x110000 ∧ utf8Bytes point ++ later = b :: rest := by
  unfold utf8Point at known
  split at known
  · rename_i half after taken
    cases known
    obtain ⟨isHalf, same⟩ := utf8Bytes_of_half? taken
    have range := half_range isHalf
    exact ⟨by omega, same⟩
  · cases first : Utf8.unit b rest with
    | mk c? after =>
        rw [first] at known
        cases c? with
        | none => cases known
        | some c =>
            cases known
            have range := Utf8.char_range c
            refine ⟨by omega, ?_⟩
            rw [utf8Bytes, if_neg (by simp [not_isHalf_toNat]), Char.ofNat_toNat]
            exact Utf8.encodeChar_of_unit first

theorem flatMap_of_utf8Points (points : List Nat) : ∀ bytes, utf8Points bytes = points.map some →
    bytes = points.flatMap utf8Bytes ∧ ∀ point ∈ points, point < 0x110000 := by
  induction points with
  | nil =>
      intro bytes known
      cases bytes with
      | nil => exact ⟨rfl, nofun⟩
      | cons b rest =>
          rw [utf8Points] at known
          cases known
  | cons point later ih =>
      intro bytes known
      cases bytes with
      | nil =>
          rw [utf8Points] at known
          cases known
      | cons b rest =>
          rw [utf8Points, List.map_cons] at known
          obtain ⟨first, others⟩ := List.cons.inj known
          have whole : utf8Point b rest = (some point, (utf8Point b rest).2) := Prod.ext first rfl
          obtain ⟨valid, same⟩ := utf8Bytes_of_utf8Point whole
          obtain ⟨sameLater, laterValid⟩ := ih _ others
          rw [List.flatMap_cons, List.forall_mem_cons, ← sameLater, same]
          exact ⟨rfl, valid, laterValid⟩

/-- UTF-8 bytes are read as code points exactly if they are what these are written as. -/
theorem mapM_utf8Points_iff {bytes : Bytes} {points : List Nat} :
    (utf8Points bytes).mapM id = some points ↔
      bytes = points.flatMap utf8Bytes ∧ ∀ point ∈ points, point < 0x110000 := by
  constructor
  · intro read
    exact flatMap_of_utf8Points points bytes (Utf8.eq_map_some_of_mapM read)
  · rintro ⟨rfl, valid⟩
    rw [utf8Points_flatMap valid, Utf8.mapM_id_map_some]

/-- The code points of the bytes behind the byte order mark. -/
def Encoding.readPoints? (encoding : Encoding) (bytes : Bytes) : Option (List Nat) :=
  match encoding with
  | utf8 | utf8Marked => (utf8Points bytes).mapM id
  | utf16 bigEndian _ => (pairs? bigEndian bytes).map joinUnits
  | utf32 bigEndian _ =>
    (quads? bigEndian bytes).filter fun codes => codes.all fun code => code < 0x110000

theorem mapM_utf8Points_writes {encoding : Encoding} (bytes : Bytes) (points : List Nat)
    (written : encoding.pointBytes = utf8Bytes)
    (narrow : ∀ bigEndian marked, encoding ≠ .utf16 bigEndian marked) :
    (utf8Points bytes).mapM id = some points ↔
      encoding.Writes points ∧ bytes = points.flatMap encoding.pointBytes := by
  rw [mapM_utf8Points_iff, written]
  constructor
  · rintro ⟨same, valid⟩
    exact ⟨⟨valid, fun bigEndian marked wide => absurd wide (narrow bigEndian marked)⟩, same⟩
  · rintro ⟨writes, same⟩
    exact ⟨same, writes.valid⟩

theorem Encoding.readPoints?_iff {encoding : Encoding} {bytes : Bytes} {points : List Nat} :
    encoding.readPoints? bytes = some points ↔
      encoding.Writes points ∧ bytes = points.flatMap encoding.pointBytes := by
  cases encoding with
  | utf8 => exact mapM_utf8Points_writes bytes points rfl nofun
  | utf8Marked => exact mapM_utf8Points_writes bytes points rfl nofun
  | utf16 bigEndian marked =>
      have written : points.flatMap (pointBytes (.utf16 bigEndian marked)) =
          (points.flatMap unitsOf).flatMap (pairBytes bigEndian) := List.flatMap_assoc.symm
      rw [readPoints?, written, Option.map_eq_some_iff]
      constructor
      · rintro ⟨units, read, rfl⟩
        obtain ⟨same, fit⟩ := flatMap_of_pairs? bigEndian bytes read
        rw [flatMap_joinUnits units fit]
        exact ⟨⟨joinUnits_valid units fit, fun _ _ _ => joinUnits_apart units⟩, same⟩
      · rintro ⟨writes, rfl⟩
        have fit : ∀ unit ∈ points.flatMap unitsOf, unit < 0x10000 := by
          intro unit member
          obtain ⟨point, among, of⟩ := List.mem_flatMap.mp member
          exact unitsOf_fit (writes.valid point among) unit of
        exact ⟨_, pairs?_flatMap bigEndian fit,
          joinUnits_flatMap writes.valid (writes.apart bigEndian marked rfl)⟩
  | utf32 bigEndian marked =>
      have written : points.flatMap (pointBytes (.utf32 bigEndian marked)) =
          points.flatMap (quadBytes bigEndian) := rfl
      rw [readPoints?, written, Option.filter_eq_some_iff, List.all_eq_true]
      simp only [decide_eq_true_eq]
      constructor
      · rintro ⟨read, valid⟩
        exact ⟨⟨valid, nofun⟩, flatMap_of_quads? bigEndian bytes read⟩
      · rintro ⟨writes, rfl⟩
        refine ⟨quads?_flatMap bigEndian fun code member => ?_, writes.valid⟩
        exact Nat.lt_trans (writes.valid code member) (by decide)

/-- A body begins with the byte order mark of the encoding that it shows. -/
theorem starts_with_mark (body : Bytes) : (Encoding.detect body).mark <+: body := by
  unfold Encoding.detect
  iterate 5
    split
    · rename_i marked
      exact List.isPrefixOf_iff_prefix.mp marked
  -- every encoding that is left has no mark
  split
  · split_ifs <;> exact List.nil_prefix
  · split_ifs <;> exact List.nil_prefix
  · exact List.nil_prefix

/-- A body is read behind its byte order mark. -/
theorem bodyPoints?_eq (body : Bytes) :
    bodyPoints? body =
      (Encoding.detect body).readPoints? (body.drop (Encoding.detect body).mark.length) := by
  rw [bodyPoints?]
  cases Encoding.detect body with
  | utf8 => rfl
  | utf8Marked => rfl
  | utf16 bigEndian marked => cases bigEndian <;> cases marked <;> rfl
  | utf32 bigEndian marked => cases bigEndian <;> cases marked <;> rfl

/-- A body is read as the code points that its encoding writes as this body. -/
theorem bodyPoints?_eq_some_iff {body : Bytes} {points : List Nat} :
    bodyPoints? body = some points ↔
      (Encoding.detect body).Writes points ∧ body = (Encoding.detect body).encode points := by
  have whole := List.prefix_iff_eq_append.mp (starts_with_mark body)
  rw [bodyPoints?_eq, Encoding.readPoints?_iff, Encoding.encode]
  apply and_congr_right'
  constructor
  · intro same
    rw [← same]
    exact whole.symm
  · intro same
    exact List.append_cancel_left (whole.trans same)

end OtcDesk.Json
