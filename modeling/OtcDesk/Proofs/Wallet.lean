import Mathlib.Data.List.Forall2
import OtcDesk.Proofs.Bytes.HexPairs
import OtcDesk.Proofs.Text.Blank
import OtcDesk.Proofs.Text.Case
import OtcDesk.Wallet

namespace OtcDesk.Wallet

/-- A character is one of the ASCII digits of a hexadecimal number, in either case. -/
def IsHexDigit (c : Char) : Prop :=
  '0' ≤ c ∧ c ≤ '9' ∨ 'a' ≤ c ∧ c ≤ 'f' ∨ 'A' ≤ c ∧ c ≤ 'F'

instance (c : Char) : Decidable (IsHexDigit c) := inferInstanceAs (Decidable (_ ∨ _))

theorem IsHexDigit.isPlain {c : Char} (digit : IsHexDigit c) : Text.IsPlain c := by
  rcases digit with ⟨-, below⟩ | ⟨-, below⟩ | ⟨-, below⟩ <;>
    exact Nat.lt_of_le_of_lt (UInt32.le_iff_toNat_le.mp below) (by decide)

theorem IsHexDigit.of_table {P : Char → Prop} {c : Char} (digit : IsHexDigit c)
    (table : ∀ n < 0x80, IsHexDigit (Char.ofNat n) → P (Char.ofNat n)) : P c :=
  digit.isPlain.of_table (P := fun c => IsHexDigit c → P c) table digit

theorem isDigit_iff (c : Char) : isDigit c = true ↔ IsHexDigit c := by
  constructor
  · intro digit
    obtain ⟨value, read⟩ := Option.isSome_iff_exists.mp digit
    have plain : Text.IsPlain c := (Hex.digit?_eq_some_iff.mp read).solid.1
    exact plain.of_table (P := fun c => isDigit c = true → IsHexDigit c) (by decide +kernel) digit
  · intro digit
    exact digit.of_table (P := fun c => isDigit c = true) (by decide +kernel)

theorem IsHexDigit.toLower {c : Char} (digit : IsHexDigit c) : IsHexDigit c.toLower :=
  digit.of_table (P := fun c => IsHexDigit c.toLower) (by decide +kernel)

/-- A character is another one, or the same digit in either case. -/
def SameDigit (left right : Char) : Prop :=
  left = right ∨ IsHexDigit left ∧ IsHexDigit right ∧ left.toLower = right.toLower

theorem IsHexDigit.sameDigit_iff {left : Char} (digit : IsHexDigit left) (right : Char) :
    SameDigit left right ↔ IsHexDigit right ∧ left.toLower = right.toLower := by
  constructor
  · rintro (rfl | ⟨-, alsoDigit, same⟩)
    · exact ⟨digit, rfl⟩
    · exact ⟨alsoDigit, same⟩
  · rintro ⟨alsoDigit, same⟩
    exact .inr ⟨digit, alsoDigit, same⟩

/-- In the mark of an address no other character is the same. -/
theorem sameDigit_mark {c : Char} :
    (SameDigit '0' c ↔ '0' = c) ∧ (SameDigit 'x' c ↔ 'x' = c) := by
  refine ⟨⟨?_, .inl⟩, ⟨?_, .inl⟩⟩
  · rintro (same | ⟨-, digit, same⟩)
    · exact same
    · exact digit.of_table (P := fun c => '0'.toLower = c.toLower → '0' = c) (by decide +kernel) same
  · rintro (same | ⟨digit, -⟩)
    · exact same
    · exact absurd digit (by decide)

theorem forall₂_sameDigit_iff {left : List Char} (digits : ∀ c ∈ left, IsHexDigit c)
    (right : List Char) :
    List.Forall₂ SameDigit left right ↔
      (∀ c ∈ right, IsHexDigit c) ∧ left.map Char.toLower = right.map Char.toLower := by
  induction left generalizing right with
  | nil => cases right <;> simp
  | cons c rest inductionHypothesis =>
      obtain ⟨here, later⟩ := List.forall_mem_cons.mp digits
      cases right with
      | nil => simp
      | cons d tail =>
          rw [List.forall₂_cons, here.sameDigit_iff, inductionHypothesis later,
            List.forall_mem_cons, List.map_cons, List.map_cons, List.cons.injEq, and_and_and_comm]

/-- Characters are an address: `0x` and exactly forty digits. -/
inductive IsAddress : List Char → Prop where
  | marked {digits : List Char} (forty : digits.length = 40)
      (hexadecimal : ∀ c ∈ digits, IsHexDigit c) : IsAddress ('0' :: 'x' :: digits)

variable {core : List Char} {address : Option String} {owner : String}

theorem IsAddress.length (forms : IsAddress core) : core.length = 42 := by
  cases forms with
  | marked forty => rw [List.length_cons, List.length_cons, forty]

/-- The characters of an address are plain, solid and lowered by nothing beyond ASCII. -/
theorem IsAddress.spec (forms : IsAddress core) : ∀ c ∈ core, Text.IsPlain c ∧
    Text.isBlank c = false ∧ Text.IsPlain c.toLower ∧ Text.isBlank c.toLower = false ∧
    c.toLower.toLower = c.toLower ∧ c.toLower ≠ 'k' := by
  cases forms with
  | marked forty hexadecimal =>
      simp only [List.forall_mem_cons]
      refine ⟨by decide, by decide, fun c member => ?_⟩
      exact ⟨(hexadecimal c member).isPlain, (hexadecimal c member).of_table
        (P := fun c => Text.isBlank c = false ∧ Text.IsPlain c.toLower ∧
          Text.isBlank c.toLower = false ∧ c.toLower.toLower = c.toLower ∧ c.toLower ≠ 'k')
        (by decide +kernel)⟩

theorem IsAddress.toLower (forms : IsAddress core) : IsAddress (core.map Char.toLower) := by
  cases forms with
  | @marked digits forty hexadecimal =>
      refine IsAddress.marked (by rwa [List.length_map]) ?_
      intro c member
      obtain ⟨digit, among, rfl⟩ := List.mem_map.mp member
      exact (hexadecimal digit among).toLower

/-- What has the digits of an address, in either case, are the addresses with the same lower form. -/
theorem IsAddress.forall₂_sameDigit_iff (forms : IsAddress core) (other : List Char) :
    List.Forall₂ SameDigit core other ↔
      IsAddress other ∧ core.map Char.toLower = other.map Char.toLower := by
  cases forms with
  | @marked digits forty hexadecimal =>
      simp only [List.forall₂_cons_left_iff, sameDigit_mark,
        Wallet.forall₂_sameDigit_iff hexadecimal]
      constructor
      · rintro ⟨_, _, rfl, ⟨_, rest, rfl, ⟨alsoDigits, same⟩, rfl⟩, rfl⟩
        have alsoForty : rest.length = 40 := by
          rw [← List.length_map (f := Char.toLower), ← same, List.length_map, forty]
        exact ⟨.marked alsoForty alsoDigits, congrArg ('0' :: 'x' :: ·) same⟩
      · rintro ⟨⟨alsoForty, alsoDigits⟩, same⟩
        have tails := (List.cons.inj (List.cons.inj same).2).2
        exact ⟨'0', _, rfl, ⟨'x', _, rfl, ⟨alsoDigits, tails⟩, rfl⟩, rfl⟩

/-- Characters that do not end with a blank match the pattern exactly if they are an address. -/
theorem matchesPattern_iff (ended : ∀ c ∈ core.getLast?, Text.isBlank c = false) :
    matchesPattern core = true ↔ IsAddress core := by
  constructor
  · intro isMatch
    unfold matchesPattern at isMatch
    split at isMatch
    · rename_i rest
      simp only [Bool.and_eq_true, beq_iff_eq, List.all_eq_true, isDigit_iff] at isMatch
      obtain ⟨⟨forty, hexadecimal⟩, atEnd⟩ := isMatch
      simp only [isEnd, Bool.or_eq_true, List.isEmpty_iff, beq_iff_eq] at atEnd
      have whole := List.take_append_drop 40 rest
      generalize rest.take 40 = digits at whole forty hexadecimal
      generalize rest.drop 40 = ending at whole atEnd
      subst whole
      rcases atEnd with rfl | rfl
      · rw [List.append_nil]
        exact .marked forty hexadecimal
      · -- the line feed that the pattern lets through would be a blank at the end
        have blank := ended '\n' (List.getLast?_concat (l := '0' :: 'x' :: digits))
        exact absurd blank (by decide)
    · cases isMatch
  · intro forms
    cases forms with
    | @marked digits forty hexadecimal =>
        have all : digits.take 40 = digits := List.take_of_length_le (Nat.le_of_eq forty)
        have none : digits.drop 40 = [] := List.drop_of_length_le (Nat.le_of_eq forty)
        simpa [matchesPattern, isEnd, all, none, forty, isDigit_iff] using hexadecimal

/-- The characters of what was given for an address, without the blanks around them. -/
def IsCore (address : Option String) (core : List Char) : Prop :=
  Text.Trimmed Text.isBlank (address.getD "").toList core

theorem isCore_iff :
    IsCore address core ↔ Text.trimWhere Text.isBlank (address.getD "").toList = core :=
  Text.trimWhere_eq_iff.symm

/-- What was given is an address, of which the lower form is kept, or it is refused. -/
theorem normalize_cases (address : Option String) :
    ∃ core, IsCore address core ∧
      (IsAddress core ∧ normalize address = .ok (String.ofList (core.map Char.toLower)) ∨
        ¬ IsAddress core ∧ normalize address =
          .error (.rejection (.str "INVALID_WALLET_ADDRESS")
            ("invalid wallet address: " ++ (address.map Text.quoted).getD "None") none)) := by
  have isCore : IsCore address _ := isCore_iff.mpr rfl
  have known := matchesPattern_iff isCore.last
  refine ⟨_, isCore, ?_⟩
  unfold normalize
  dsimp only
  split
  · rename_i isMatch
    exact .inl ⟨known.mp isMatch, rfl⟩
  · rename_i noMatch
    exact .inr ⟨mt known.mpr noMatch, rfl⟩

theorem isCore_unique {other : List Char} (isCore : IsCore address core)
    (alsoCore : IsCore address other) : other = core :=
  (isCore_iff.mp alsoCore).symm.trans (isCore_iff.mp isCore)

/-- The address that was given is kept in lower case. -/
theorem normalize_eq_ok_iff :
    normalize address = .ok owner ↔
      ∃ core, IsCore address core ∧ IsAddress core ∧ owner.toList = core.map Char.toLower := by
  obtain ⟨core, isCore, ⟨forms, kept⟩ | ⟨noAddress, refused⟩⟩ := normalize_cases address
  · constructor
    · intro named
      cases kept.symm.trans named
      exact ⟨core, isCore, forms, String.toList_ofList⟩
    · rintro ⟨other, alsoCore, -, same⟩
      rw [kept, ← isCore_unique isCore alsoCore, ← same, String.ofList_toList]
  · constructor
    · intro named
      cases refused.symm.trans named
    · rintro ⟨other, alsoCore, forms, -⟩
      rw [isCore_unique isCore alsoCore] at forms
      exact absurd forms noAddress

/-- The characters of an address in its kept form. -/
theorem isAddress_of_normalize (named : normalize address = .ok owner) :
    IsAddress owner.toList ∧ ∀ c ∈ owner.toList, Text.IsPlain c ∧ Text.isBlank c = false ∧
      c.toLower = c ∧ c ≠ 'k' := by
  obtain ⟨core, -, forms, same⟩ := normalize_eq_ok_iff.mp named
  rw [same]
  refine ⟨forms.toLower, ?_⟩
  intro c member
  obtain ⟨d, among, rfl⟩ := List.mem_map.mp member
  obtain ⟨-, -, kept⟩ := forms.spec d among
  exact kept

/-- An address in its kept form cannot be taken for another text, and is not empty. -/
theorem isUnmistakable_of_normalize (named : normalize address = .ok owner) :
    Text.IsUnmistakable owner ∧ owner ≠ "" := by
  obtain ⟨forms, kept⟩ := isAddress_of_normalize named
  constructor
  · intro c member
    obtain ⟨plain, -, lower, other⟩ := kept c member
    exact ⟨plain, lower, other⟩
  · rintro rfl
    exact absurd forms.length (by decide)

/-- The kept form of an address is kept as it is. -/
theorem normalize_of_normalize (named : normalize address = .ok owner) :
    normalize (some owner) = .ok owner := by
  obtain ⟨forms, kept⟩ := isAddress_of_normalize named
  have solid : ∀ c ∈ owner.toList, Text.isBlank c = false := fun c member => (kept c member).2.1
  have isCore : IsCore (some owner) owner.toList := Text.trimmed_of_solid solid
  have lowered : owner.toList.map Char.toLower = owner.toList :=
    (List.map_congr_left fun c member => (kept c member).2.2.1).trans (List.map_id _)
  exact normalize_eq_ok_iff.mpr ⟨_, isCore, forms, lowered.symm⟩

/-- The kept form is the lower form over all of Unicode of what was given. -/
theorem eq_lower_of_normalize (named : normalize address = .ok owner) :
    owner = Text.lower (Text.strip (address.getD "")) := by
  obtain ⟨core, isCore, forms, same⟩ := normalize_eq_ok_iff.mp named
  have stripped : (Text.strip (address.getD "")).toList = core := by
    rw [Text.toList_strip, isCore_iff.mp isCore]
  rw [Text.lower_of_isPlain (stripped ▸ fun c member => (forms.spec c member).1), stripped, ← same,
    String.ofList_toList]

/-- What was given twice differs in the case of digits and in the blanks around the text only. -/
def Alike (address other : Option String) : Prop :=
  ∃ left right, IsCore address left ∧ IsCore other right ∧ List.Forall₂ SameDigit left right

/-- An address is kept in the same form as exactly the texts that are like it. -/
theorem normalize_eq_iff_alike (named : normalize address = .ok owner) (other : Option String) :
    normalize other = .ok owner ↔ Alike address other := by
  obtain ⟨core, isCore, forms, same⟩ := normalize_eq_ok_iff.mp named
  constructor
  · intro alsoNamed
    obtain ⟨right, rightCore, rightForms, alsoSame⟩ := normalize_eq_ok_iff.mp alsoNamed
    exact ⟨core, right, isCore, rightCore,
      (forms.forall₂_sameDigit_iff right).mpr ⟨rightForms, same.symm.trans alsoSame⟩⟩
  · rintro ⟨left, right, leftCore, rightCore, alike⟩
    rw [isCore_unique isCore leftCore, forms.forall₂_sameDigit_iff] at alike
    exact normalize_eq_ok_iff.mpr ⟨right, rightCore, alike.1, same.trans alike.2⟩

/-- A text is taken for an address exactly if its core is one, and is kept in lower case. -/
theorem address_recognized_exactly (address : Option String) :
    (∃! core, IsCore address core) ∧
    ((∃ owner, normalize address = .ok owner) ↔ ∃ core, IsCore address core ∧ IsAddress core) ∧
    (∀ owner, normalize address = .ok owner →
      owner.length = 42 ∧
      (∀ core, IsCore address core → owner.toList = core.map Char.toLower) ∧
      owner = Text.lower (Text.strip (address.getD "")) ∧
      normalize (some owner) = .ok owner ∧
      ∀ other, normalize other = .ok owner ↔ Alike address other) ∧
    ∀ core, IsCore address core →
      ((∃ c ∈ core, Text.isBlank c = true) ∨ ['0', 'X'] <+: core ∨
        (∃ c ∈ core, ¬ Text.IsPlain c) → ¬ IsAddress core) ∧
      (¬ IsAddress core → normalize address =
        .error (.rejection (.str "INVALID_WALLET_ADDRESS")
          ("invalid wallet address: " ++ (address.map Text.quoted).getD "None") none)) := by
  obtain ⟨given, isCore, outcome⟩ := normalize_cases address
  have unique : ∀ core, IsCore address core → core = given := fun _ => isCore_unique isCore
  refine ⟨⟨given, isCore, unique⟩, ?accepted, ?kept, ?others⟩
  case accepted =>
    constructor
    · rintro ⟨owner, named⟩
      obtain ⟨core, isCore, forms, -⟩ := normalize_eq_ok_iff.mp named
      exact ⟨core, isCore, forms⟩
    · rintro ⟨core, isCore, forms⟩
      exact ⟨_, normalize_eq_ok_iff.mpr ⟨core, isCore, forms, String.toList_ofList⟩⟩
  case kept =>
    intro owner named
    refine ⟨?_, ?_, eq_lower_of_normalize named, normalize_of_normalize named,
      normalize_eq_iff_alike named⟩
    · rw [← String.length_toList]
      exact (isAddress_of_normalize named).1.length
    · intro core isCore
      obtain ⟨other, alsoCore, -, same⟩ := normalize_eq_ok_iff.mp named
      rw [same, isCore_unique isCore alsoCore]
  case others =>
    intro core isCore
    obtain rfl := unique core isCore
    constructor
    · rintro strange forms
      have spec := forms.spec
      rcases strange with ⟨c, member, blank⟩ | ⟨rest, capital⟩ | ⟨c, member, beyond⟩
      · rw [(spec c member).2.1] at blank
        cases blank
      · rw [← capital] at forms
        cases forms
      · exact beyond (spec c member).1
    · intro noAddress
      rcases outcome with ⟨forms, -⟩ | ⟨-, refused⟩
      · exact absurd forms noAddress
      · exact refused

/-- An address in mixed case between blanks is kept in lower case, and look-alikes are refused. -/
theorem spaced_address_kept_look_alikes_refused :
    let owner := "0xabababababababababababababababababababab"
    let mixed := "\u3000 0xaBaBaBaBaBaBaBaBaBaBaBaBaBaBaBaBaBaBaBaB\t\n"
    let capitals := "0xABABABABABABABABABABABABABABABABABABABAB\u2028"
    let capitalMark := "0Xabababababababababababababababababababab"
    let brokenLine := "0xabababababababababab\nabababababababababab"
    let wideDigit := "0x\uff11bababababababababababababababababababab"
    (normalize (some mixed) = .ok owner ∧ owner.length = 42 ∧
      owner = Text.lower (Text.strip mixed) ∧ normalize (some owner) = .ok owner ∧
      Alike (some mixed) (some capitals)) ∧
    (∀ text ∈ [capitalMark, brokenLine, wideDigit], normalize (some text) =
      .error (.rejection (.str "INVALID_WALLET_ADDRESS")
        ("invalid wallet address: " ++ Text.quoted text) none)) := by
  intro owner mixed capitals capitalMark brokenLine wideDigit
  constructor
  · have named : normalize (some mixed) = .ok owner := by decide +kernel
    have alsoNamed : normalize (some capitals) = .ok owner := by decide +kernel
    obtain ⟨-, -, kept, -⟩ := address_recognized_exactly (some mixed)
    obtain ⟨long, -, lower, again, alike⟩ := kept owner named
    exact ⟨named, long, lower, again, (alike (some capitals)).mp alsoNamed⟩
  · -- none of them has blanks around it
    have core : ∀ text ∈ [capitalMark, brokenLine, wideDigit],
        Text.trimWhere Text.isBlank text.toList = text.toList := by decide +kernel
    have strange : ∀ text ∈ [capitalMark, brokenLine, wideDigit],
        (∃ c ∈ text.toList, Text.isBlank c = true) ∨ ['0', 'X'] <+: text.toList ∨
          ∃ c ∈ text.toList, ¬ Text.IsPlain c := by
      simp only [List.forall_mem_cons, List.not_mem_nil, false_implies, implies_true, and_true]
      refine ⟨.inr (.inl ?_), .inl ⟨'\n', ?_, by decide⟩, .inr (.inr ⟨'\uff11', ?_, by decide⟩)⟩
      · decide +kernel
      · decide +kernel
      · decide +kernel
    intro text among
    obtain ⟨-, -, -, others⟩ := address_recognized_exactly (some text)
    obtain ⟨noAddress, refused⟩ := others text.toList (isCore_iff.mpr (core text among))
    exact refused (noAddress (strange text among))

end OtcDesk.Wallet
