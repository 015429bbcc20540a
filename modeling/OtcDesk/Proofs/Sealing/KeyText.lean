import OtcDesk.Proofs.Bytes.HexPairs
import OtcDesk.Proofs.Sealing.Signing
import OtcDesk.Proofs.Text.Blank

namespace OtcDesk

/-- Digits are what is left of a text without one mark of hexadecimal in front, if it has one. -/
inductive Demarked : List Char → List Char → Prop where
  | small (rest : List Char) : Demarked ('0' :: 'x' :: rest) rest
  | large (rest : List Char) : Demarked ('0' :: 'X' :: rest) rest
  | plain {text : List Char} (small : ¬ ['0', 'x'] <+: text) (large : ¬ ['0', 'X'] <+: text) :
      Demarked text text

theorem demarked_dropHexMark (text : List Char) : Demarked text (dropHexMark text) := by
  fun_cases dropHexMark text with
  | case1 rest => exact .small rest
  | case2 rest => exact .large rest
  | case3 text small large =>
      refine .plain ?_ ?_
      · rintro ⟨rest, same⟩
        exact small rest same.symm
      · rintro ⟨rest, same⟩
        exact large rest same.symm

theorem Demarked.suffix {text digits : List Char} (demarked : Demarked text digits) :
    digits <:+ text := by
  cases demarked with
  | small => exact ⟨['0', 'x'], rfl⟩
  | large => exact ⟨['0', 'X'], rfl⟩
  | plain => exact List.suffix_refl text

/-- The characters of a key text without blanks around them and a mark in front. -/
def keyDigits (keyHex : String) : List Char :=
  dropHexMark (Text.trimWhere Text.isBlank keyHex.toList)

/-- A key text spells a key of thirty-two bytes by pairs of digits. -/
def SpellsKey (keyHex : String) (key : Bytes) : Prop :=
  Hex.Spells (keyDigits keyHex) key ∧ key.length = 32

/-- No blank is left behind the digits of a key. -/
theorem keyDigits_last (keyHex : String) :
    ∀ c ∈ (keyDigits keyHex).getLast?, Text.isBlank c = false := by
  intro c found
  have trimmed := Text.trimmed_trimWhere Text.isBlank keyHex.toList
  obtain ⟨front, whole⟩ := (demarked_dropHexMark (Text.trimWhere Text.isBlank keyHex.toList)).suffix
  apply trimmed.last c
  rw [← whole, List.getLast?_append, ← keyDigits, Option.mem_def.mp found]
  rfl

/-- As no blank is left behind them, the digits are read exactly if they are pairs. -/
theorem decode_keyDigits_iff {keyHex : String} {bytes : Bytes} :
    Hex.decode (String.ofList (keyDigits keyHex)) = .ok bytes ↔
      Hex.Spells (keyDigits keyHex) bytes := by
  rw [Hex.decode_eq_ok_iff, String.toList_ofList]
  constructor
  · rintro ⟨pairs, blanks, same, spells, trailing⟩
    have none_ : blanks = [] := by
      rw [← List.getLast?_eq_none_iff]
      by_contra some_
      obtain ⟨c, last⟩ := Option.ne_none_iff_exists'.mp some_
      have solid := keyDigits_last keyHex c (by
        rw [same, List.getLast?_append, last]
        rfl)
      have blank := trailing c (List.mem_of_getLast? last)
      rw [(Hex.isBlank_of_isAsciiBlank blank).2] at solid
      cases solid
    rw [same, none_, List.append_nil]
    exact spells
  · exact fun spells => ⟨_, [], (List.append_nil _).symm, spells, nofun⟩

/-- A text is read as a key exactly if it spells the key, and is refused otherwise. -/
theorem parseKey_cases (keyHex : String) :
    (∃ key, SpellsKey keyHex key ∧ parseKey keyHex = .ok key) ∨
      (∀ key, ¬ SpellsKey keyHex key) ∧ ∃ message, parseKey keyHex = .error (.keyUnusable message) := by
  rw [parseKey, ← keyDigits]
  cases decoded : Hex.decode (String.ofList (keyDigits keyHex)) with
  | error position =>
      refine .inr ⟨?_, _, rfl⟩
      rintro key ⟨spells, -⟩
      rw [decode_keyDigits_iff.mpr spells] at decoded
      cases decoded
  | ok bytes =>
      by_cases whole : bytes.length = 32
      · exact .inl ⟨bytes, ⟨decode_keyDigits_iff.mp decoded, whole⟩, if_pos whole⟩
      · refine .inr ⟨?_, _, if_neg whole⟩
        rintro key ⟨spells, wholeToo⟩
        rw [decode_keyDigits_iff.mpr spells] at decoded
        cases decoded
        exact whole wholeToo

theorem parseKey_eq_ok_iff {keyHex : String} {key : Bytes} :
    parseKey keyHex = .ok key ↔ SpellsKey keyHex key := by
  rcases parseKey_cases keyHex with ⟨found, spells, parsed⟩ | ⟨unspelled, message, parsed⟩
  · constructor
    · intro read
      cases parsed.symm.trans read
      exact spells
    · intro spellsToo
      have same := decode_keyDigits_iff.mpr spellsToo.1
      rw [decode_keyDigits_iff.mpr spells.1] at same
      cases same
      exact parsed
  · constructor
    · intro read
      cases parsed.symm.trans read
    · exact fun spells => absurd spells (unspelled key)

/-- A text is a key exactly if it spells thirty-two bytes, and otherwise nothing is drawn. -/
theorem key_read_exactly_and_first (keyHex : String) :
    (∃ core, Text.Trimmed Text.isBlank keyHex.toList core ∧ Demarked core (keyDigits keyHex)) ∧
      (∀ key, parseKey keyHex = .ok key ↔ SpellsKey keyHex key) ∧
      (∀ key, SpellsKey keyHex key → ∀ (intent : PlainIntent) clock entropy,
        intent.build keyHex clock entropy =
          (intent.sealedUnder key clock entropy, entropy.afterSealing)) ∧
      ((∀ key, ¬ SpellsKey keyHex key) → ∃ message,
        (∀ (intent : PlainIntent) clock entropy, intent.build keyHex clock entropy =
          (.error (.desk (.keyUnusable message)), entropy)) ∧
        ∀ payload, decryptPayload payload keyHex = .error (.desk (.keyUnusable message))) := by
  refine ⟨⟨_, Text.trimmed_trimWhere _ _, demarked_dropHexMark _⟩,
    fun key => parseKey_eq_ok_iff, ?usable, ?unusable⟩
  case usable =>
    intro key spells
    exact PlainIntent.build_of_usable (parseKey_eq_ok_iff.mpr spells)
  case unusable =>
    intro unspelled
    rcases parseKey_cases keyHex with ⟨key, spells, -⟩ | ⟨-, message, parsed⟩
    · exact absurd spells (unspelled key)
    · refine ⟨message, PlainIntent.build_of_unusable parsed, ?_⟩
      intro payload
      rw [decryptPayload, parsed]
      rfl

/-- The demo key is used with blanks and capitals, and a single digit is refused. -/
theorem spaced_key_used_odd_key_refused :
    (∃ key, parseKey demoKeyHex = .ok key ∧
      SpellsKey " 0X 00112233445566778899AABBCCDDEEFF\t00 112233445566778899aabbccddeeff\n" key ∧
      ∀ (intent : PlainIntent) clock entropy,
        (intent.build " 0X 00112233445566778899AABBCCDDEEFF\t00 112233445566778899aabbccddeeff\n"
          clock entropy).2 = entropy.afterSealing) ∧
      (∀ key, ¬ SpellsKey "0x0" key) ∧
      ∀ (intent : PlainIntent) clock entropy, (intent.build "0x0" clock entropy).2 = entropy := by
  constructor
  · obtain ⟨key, demo, parsed⟩ : ∃ key, parseKey demoKeyHex = .ok key ∧ parseKey
        " 0X 00112233445566778899AABBCCDDEEFF\t00 112233445566778899aabbccddeeff\n" = .ok key :=
      ⟨_, rfl, rfl⟩
    obtain ⟨-, reads, goesOn, -⟩ := key_read_exactly_and_first
      " 0X 00112233445566778899AABBCCDDEEFF\t00 112233445566778899aabbccddeeff\n"
    have spells := (reads key).mp parsed
    refine ⟨key, demo, spells, fun intent clock entropy => ?_⟩
    rw [goesOn key spells]
  · obtain ⟨refusal, refused⟩ : ∃ refusal, parseKey "0x0" = .error refusal := ⟨_, rfl⟩
    obtain ⟨-, reads, -, refuses⟩ := key_read_exactly_and_first "0x0"
    have unspelled : ∀ key, ¬ SpellsKey "0x0" key := by
      intro key spells
      cases refused.symm.trans ((reads key).mpr spells)
    obtain ⟨message, draws, -⟩ := refuses unspelled
    refine ⟨unspelled, fun intent clock entropy => ?_⟩
    rw [draws]

end OtcDesk
