import OtcDesk.Proofs.Session.Store
import OtcDesk.Proofs.Text.Blank
import OtcDesk.Proofs.Text.Case

namespace OtcDesk

namespace Role

/-- A text spells a role in letters of either case, with blanks around them. -/
def IsSpelledBy (role : Role) (text : String) : Prop :=
  ∃ letters, Text.Trimmed Text.isBlank text.toList letters ∧
    letters.map Char.toLower = role.name.toList

/-- The names of the roles have no letter that another character has as its lower form. -/
theorem isUnmistakable_name (role : Role) : Text.IsUnmistakable role.name := by
  cases role <;> decide

theorem named?_eq_some_iff {name : String} {role : Role} :
    named? name = some role ↔ name = role.name := by
  constructor
  · intro found
    have same := List.find?_some found
    exact (eq_of_beq same).symm
  · rintro rfl
    exact named?_name role

/-- The letters that are left of a text are those of a role exactly if the text spells it. -/
theorem isSpelledBy_iff {role : Role} {text : String} :
    role.IsSpelledBy text ↔ Text.SameLetters (Text.strip text) role.name := by
  have own : role.name.toList.map Char.toLower = role.name.toList := by
    cases role <;> decide
  rw [Text.SameLetters, own, Text.toList_strip]
  constructor
  · rintro ⟨letters, trimmed, same⟩
    rwa [Text.trimWhere_eq_iff.mpr trimmed]
  · intro same
    exact ⟨_, Text.trimmed_trimWhere _ _, same⟩

/-- A role is recognized in the texts that spell it, and in no others. -/
theorem recognize?_eq_some_iff {raw : Option String} {role : Role} :
    recognize? raw = some role ↔ role.IsSpelledBy (raw.getD "") := by
  rw [recognize?, named?_eq_some_iff, Text.lower_eq_iff (isUnmistakable_name role), isSpelledBy_iff]

/-- No role is spelled by blanks alone. -/
theorem not_isSpelledBy_of_blank {text : String} (blank : ∀ c ∈ text.toList, Text.isBlank c = true)
    (role : Role) : ¬ role.IsSpelledBy text := by
  rintro ⟨letters, trimmed, same⟩
  cases letters with
  | nil => cases role <;> exact absurd same (by decide)
  | cons c rest =>
      obtain ⟨front, back, whole, -, -⟩ := trimmed.around
      have member : c ∈ text.toList := by simp [whole]
      have solid := trimmed.first c rfl
      rw [blank c member] at solid
      cases solid

theorem recognize?_eq_none_iff {raw : Option String} :
    recognize? raw = none ↔ ∀ role : Role, ¬ role.IsSpelledBy (raw.getD "") := by
  simp only [← recognize?_eq_some_iff, Option.eq_none_iff_forall_ne_some]

/-- A text is recognized as a role exactly if it spells the role, over all of Unicode. -/
theorem recognition_admits_no_look_alikes :
    (∀ (text : String) (role : Role),
      recognize? (some text) = some role ↔ role.IsSpelledBy text) ∧
    (∀ text : String, (∀ role : Role, ¬ role.IsSpelledBy text) → recognize? (some text) = none) ∧
    recognize? none = none ∧
    (∀ text : String, (∀ c ∈ text.toList, Text.isBlank c = true) →
      recognize? (some text) = none) ∧
    (∀ role : Role, recognize? (some role.name) = some role) ∧
    ∀ (store : SessionStore) (session : WalletSession), store.load.value = .ok (some session) →
      ∃ written, (store.save session).value = .ok written ∧
        written.load.value = .ok (some session) ∧ (written.save session).value = .ok written := by
  refine ⟨fun text role => recognize?_eq_some_iff, ?others, ?absent, ?blank, recognize?_name, ?stored⟩
  case others =>
    intro text unspelled
    exact recognize?_eq_none_iff.mpr unspelled
  case absent =>
    exact recognize?_eq_none_iff.mpr (not_isSpelledBy_of_blank (by simp))
  case blank =>
    intro text blank
    exact recognize?_eq_none_iff.mpr (not_isSpelledBy_of_blank blank)
  case stored =>
    intro store session loaded
    exact SessionStore.save_loaded loaded

/-- A role in mixed case between blanks is recognized, and no look-alike of one is. -/
theorem spaced_role_recognized_look_alikes_not :
    (recognize? (some "\u2003OpS\n") = some .ops ∧ ops.IsSpelledBy "\u2003OpS\n") ∧
    (∀ text ∈ ["compl\u0130ance", "\uff4f\uff50\uff53", "de\u0430ler", "o\u200bps"],
      (∀ role : Role, ¬ role.IsSpelledBy text) ∧ recognize? (some text) = none) ∧
    recognize? (some "\u3000\t") = none ∧
    let store : SessionStore := ⟨some (.memory [(SessionStore.defaultKey,
      "\x7b\"accessToken\": \"t\", \"walletAddress\": \"w\", \"role\": \" OPS \", \"expiresAt\": 9\x7d")]),
      SessionStore.defaultKey⟩
    let session : WalletSession := ⟨"t", "w", .ops, 9⟩
    store.load.value = .ok (some session) ∧
      ∃ written, (store.save session).value = .ok written ∧
        written.load.value = .ok (some session) ∧ (written.save session).value = .ok written := by
  obtain ⟨spelled, others, -, blank, -, stored⟩ := recognition_admits_no_look_alikes
  refine ⟨?_, ?_, ?_, ?_⟩
  · have recognized : recognize? (some "\u2003OpS\n") = some .ops := by decide +kernel
    exact ⟨recognized, (spelled _ _).mp recognized⟩
  · intro text among
    have unrecognized : ∀ text ∈ ["compl\u0130ance", "\uff4f\uff50\uff53", "de\u0430ler", "o\u200bps"],
        recognize? (some text) = none := by decide +kernel
    have unspelled : ∀ role : Role, ¬ role.IsSpelledBy text := by
      intro role spells
      have recognized := (spelled text role).mpr spells
      rw [unrecognized text among] at recognized
      cases recognized
    exact ⟨unspelled, others text unspelled⟩
  · exact blank "\u3000\t" (List.all_eq_true.mp (by decide))
  · intro store session
    have loaded : store.load.value = .ok (some session) := by decide +kernel
    exact ⟨loaded, stored store session loaded⟩

end Role

end OtcDesk
