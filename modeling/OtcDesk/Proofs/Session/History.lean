import OtcDesk.Proofs.Session.Refinement
import OtcDesk.Proofs.Session.Store

namespace OtcDesk

/-- A step that stores take on the slots they share. -/
inductive StoreStep where
  | save (key : String) (session : WalletSession)
  | clear (key : String)
  | reopen
  deriving DecidableEq, Repr

namespace StoreStep

/-- The key of the store that takes a step. -/
def key? : StoreStep → Option String
  | save key _ | clear key => some key
  | reopen => none

/-- A step can be taken: what it saves, if anything, can be written. -/
def IsWritable : StoreStep → Prop
  | save _ session => session.record.IsWritable
  | clear _ | reopen => True

instance (step : StoreStep) : Decidable step.IsWritable :=
  match step with
  | save _ session => inferInstanceAs (Decidable session.record.IsWritable)
  | clear _ | reopen => inferInstanceAs (Decidable True)

/-- What a step settles for a key: the session that is kept there from then on, or none. -/
def settles (key : String) : StoreStep → Option (Option WalletSession)
  | save saved session =>
    if saved = key ∧ session.record.IsWritable then some (some session) else none
  | clear cleared => if cleared = key then some none else none
  | reopen => none

/-- The slots after a step, if it can be taken. -/
def perform (slots : Option Slots) : StoreStep → Except Fault (Option Slots)
  | save key session => ((SessionStore.mk slots key).save session).value.map (·.slots)
  | clear key => (SessionStore.mk slots key).clear.value.map (·.slots)
  | reopen => .ok (slots.map Slots.reopened)

/-- The slots after a step or an attempt at it. -/
def leaves (slots : Option Slots) (step : StoreStep) : Option Slots :=
  match step.perform slots with
  | .ok after => after
  | .error _ => slots

/-- A step under another key settles nothing. -/
theorem settles_of_ne {step : StoreStep} {key : String} (other : step.key? ≠ some key) :
    step.settles key = none := by
  cases step with
  | save saved session => exact if_neg fun both => other (congrArg some both.1)
  | clear cleared => exact if_neg fun same => other (congrArg some same)
  | reopen => rfl

/-- A step that cannot be taken settles nothing. -/
theorem settles_of_not_isWritable {step : StoreStep} (unwritable : ¬ step.IsWritable)
    (key : String) : step.settles key = none := by
  cases step with
  | save saved session => exact if_neg fun both => unwritable both.2
  | clear cleared => exact absurd trivial unwritable
  | reopen => rfl

end StoreStep

/-- The session that could be saved last under a key; none before the first and after a clear. -/
def lastSaved (key : String) (steps : List StoreStep) : Option WalletSession :=
  (steps.reverse.findSome? (·.settles key)).join

theorem lastSaved_concat (key : String) (steps : List StoreStep) (step : StoreStep) :
    lastSaved key (steps ++ [step]) = (step.settles key).getD (lastSaved key steps) := by
  rw [lastSaved, List.reverse_concat, List.findSome?_cons]
  cases step.settles key with
  | none => rfl
  | some kept => rfl

/-- A step that settles nothing for a key saves nothing under it. -/
theorem lastSaved_of_settles {key : String} {step : StoreStep} (open_ : step.settles key = none)
    (steps : List StoreStep) : lastSaved key (steps ++ [step]) = lastSaved key steps := by
  rw [lastSaved_concat, open_]
  rfl

/-- What was saved last can be written. -/
theorem isWritable_of_lastSaved {key : String} {steps : List StoreStep} {session : WalletSession}
    (saved : lastSaved key steps = some session) : session.record.IsWritable := by
  obtain ⟨step, _, settled⟩ := List.exists_of_findSome?_eq_some (Option.join_eq_some_iff.mp saved)
  cases step with
  | save under kept =>
      rw [StoreStep.settles] at settled
      split at settled
      · rename_i both
        cases settled
        exact both.2
      · cases settled
  | clear cleared =>
      rw [StoreStep.settles] at settled
      split at settled
      · cases settled
      · cases settled
  | reopen => cases settled

namespace Slots

/-- Slots at first: none in memory, or those of a file in an empty directory. -/
def fresh : Option String → Slots
  | none => .memory []
  | some path => .file { path }

/-- The text that is in a slot after some steps. -/
def textAfter (steps : List StoreStep) (key : String) : Option String :=
  (lastSaved key steps).map fun session => session.record.text

/-- A step that settles something for its key changes the text of that slot alone. -/
theorem textAfter_concat {step : StoreStep} {key : String} {kept : Option WalletSession}
    (taken : step.key? = some key) (settled : step.settles key = some kept)
    (steps : List StoreStep) :
    textAfter (steps ++ [step]) =
      Function.update (textAfter steps) key (kept.map fun session => session.record.text) := by
  funext asked
  by_cases same : asked = key
  · rw [same, Function.update_self, textAfter, lastSaved_concat, settled]
    rfl
  · have other : step.key? ≠ some asked := by
      rw [taken]
      exact fun equal => same (Option.some.inj equal).symm
    rw [Function.update_of_ne same, textAfter, textAfter,
      lastSaved_of_settles (StoreStep.settles_of_ne other)]

/-- A step that settles nothing changes no text. -/
theorem textAfter_of_settles {step : StoreStep} (open_ : ∀ key, step.settles key = none)
    (steps : List StoreStep) : textAfter (steps ++ [step]) = textAfter steps := by
  funext key
  rw [textAfter, textAfter, lastSaved_of_settles (open_ key)]

/-- The slots hold, for every key, the session that was saved last under it, and nothing else. -/
def Recall (slots : Slots) (steps : List StoreStep) : Prop := slots.Shows (textAfter steps)

theorem recall_fresh (place : Option String) : (fresh place).Recall [] := by
  intro key
  cases place with
  | none => rfl
  | some path => rfl

variable {slots : Slots} {steps : List StoreStep}

/-- A store on slots that recall some steps loads the session that they saved last. -/
theorem Recall.load (recalls : slots.Recall steps) (key : String) :
    (SessionStore.mk (some slots) key).load.value = .ok (lastSaved key steps) := by
  apply SessionStore.Holds.load
  exact ⟨fun _ saved => isWritable_of_lastSaved saved, slots, rfl, recalls key⟩

/-- A step that can be taken succeeds, and the slots recall it too. -/
theorem Recall.perform (recalls : slots.Recall steps) {step : StoreStep}
    (writable : step.IsWritable) :
    ∃ next, step.perform (some slots) = .ok (some next) ∧ next.Recall (steps ++ [step]) := by
  cases step with
  | save key session =>
      obtain ⟨written, done, after, _⟩ := Shows.set recalls key session.record.text
      refine ⟨written, ?_, ?_⟩
      · rw [StoreStep.perform, SessionStore.save,
          SessionStore.saveRecord_of_isWritable rfl writable]
        simp only [SessionStore.withSlots, done]
        rfl
      · have settled : (StoreStep.save key session).settles key = some (some session) :=
          if_pos ⟨rfl, writable⟩
        rw [Recall, textAfter_concat rfl settled]
        exact after
  | clear key =>
      obtain ⟨written, done, after, _⟩ := Shows.delete recalls key
      refine ⟨written, ?_, ?_⟩
      · rw [StoreStep.perform, SessionStore.clear]
        simp only [SessionStore.withSlots, done]
        rfl
      · have settled : (StoreStep.clear key).settles key = some none := if_pos rfl
        rw [Recall, textAfter_concat rfl settled]
        exact after
  | reopen =>
      refine ⟨slots, ?_, ?_⟩
      · rw [StoreStep.perform, Option.map_some, reopened_eq]
      · rw [Recall, textAfter_of_settles fun _ => rfl]
        exact recalls

/-- A step that cannot be taken fails. -/
theorem perform_of_not_isWritable (slots : Slots) {step : StoreStep}
    (unwritable : ¬ step.IsWritable) :
    step.perform (some slots) = .error SessionRecord.unwritable := by
  cases step with
  | save key session =>
      have refuses : ¬ (SessionStore.mk (some slots) key).Takes session :=
        not_or.mpr ⟨nofun, unwritable⟩
      rw [StoreStep.perform, SessionStore.save_of_not_takes refuses]
      rfl
  | clear key => exact absurd trivial unwritable
  | reopen => exact absurd trivial unwritable

/-- Slots recall a step, whether it can be taken or not. -/
theorem Recall.leaves (recalls : slots.Recall steps) (step : StoreStep) :
    ∃ next, step.leaves (some slots) = some next ∧ next.Recall (steps ++ [step]) := by
  by_cases writable : step.IsWritable
  · obtain ⟨next, performed, recallNext⟩ := recalls.perform writable
    exact ⟨next, by rw [StoreStep.leaves, performed], recallNext⟩
  · refine ⟨slots, by rw [StoreStep.leaves, perform_of_not_isWritable slots writable], ?_⟩
    rw [Recall, textAfter_of_settles (StoreStep.settles_of_not_isWritable writable)]
    exact recalls

/-- Slots that were fresh recall all the steps since. -/
theorem recall_leaves (place : Option String) (steps : List StoreStep) :
    ∃ reached, steps.foldl StoreStep.leaves (some (fresh place)) = some reached ∧
      reached.Recall steps := by
  induction steps using List.reverseRecOn with
  | nil => exact ⟨fresh place, rfl, recall_fresh place⟩
  | append_singleton earlier step ih =>
      obtain ⟨before, run, recalls⟩ := ih
      obtain ⟨after, left, recallAll⟩ := recalls.leaves step
      refine ⟨after, ?_, recallAll⟩
      rw [List.foldl_append, run]
      exact left

end Slots

/-- Without slots every step is dropped. -/
theorem StoreStep.perform_none (step : StoreStep) : step.perform none = .ok none := by
  cases step <;> rfl

theorem StoreStep.leaves_none (steps : List StoreStep) :
    steps.foldl StoreStep.leaves none = none := by
  induction steps with
  | nil => rfl
  | cons step later ih =>
      rw [List.foldl_cons, StoreStep.leaves, step.perform_none]
      exact ih

/-- A store loads the session last saved under its key, if it can be written and was not cleared. -/
theorem load_after_steps (place : Option String) (steps : List StoreStep) :
    (∃ reached, steps.foldl StoreStep.leaves (some (Slots.fresh place)) = some reached ∧
      (∀ key, (SessionStore.mk (some reached) key).load.value = .ok (lastSaved key steps) ∧
        ∀ step : StoreStep, step.key? ≠ some key →
          (SessionStore.mk (step.leaves (some reached)) key).load.value =
            (SessionStore.mk (some reached) key).load.value) ∧
      ∀ step : StoreStep,
        (step.IsWritable → ∃ next, step.perform (some reached) = .ok (some next)) ∧
        (¬ step.IsWritable → step.perform (some reached) = .error SessionRecord.unwritable ∧
          step.leaves (some reached) = some reached)) ∧
    steps.foldl StoreStep.leaves none = none ∧ (∀ step : StoreStep, step.perform none = .ok none) ∧
    ∀ key, (SessionStore.mk none key).load.value = .ok none := by
  obtain ⟨reached, run, recalls⟩ := Slots.recall_leaves place steps
  refine ⟨⟨reached, run, ?loads, ?steps⟩, StoreStep.leaves_none steps, StoreStep.perform_none,
    fun _ => rfl⟩
  case loads =>
    intro key
    refine ⟨recalls.load key, ?_⟩
    intro step other
    obtain ⟨next, left, recallNext⟩ := recalls.leaves step
    rw [left, recallNext.load key, recalls.load key,
      lastSaved_of_settles (StoreStep.settles_of_ne other)]
  case steps =>
    intro step
    constructor
    · intro writable
      obtain ⟨next, performed, _⟩ := recalls.perform writable
      exact ⟨next, performed⟩
    · intro unwritable
      have failed := Slots.perform_of_not_isWritable reached unwritable
      exact ⟨failed, by rw [StoreStep.leaves, failed]⟩

/-- A session that never ends within any calendar: its expiry has one digit too many. -/
def endlessSession : WalletSession := ⟨"token", "wallet", .ops, 10 ^ Text.digitLimit⟩

/-- It is not loaded after it was to be saved, for it could not be. -/
theorem endless_session_not_kept :
    (StoreStep.save "k" endlessSession).perform (some (Slots.fresh none)) =
      .error SessionRecord.unwritable ∧
    (SessionStore.mk ((StoreStep.save "k" endlessSession).leaves (some (Slots.fresh none)))
      "k").load.value ≠ .ok (some endlessSession) := by
  have unwritable : ¬ (StoreStep.save "k" endlessSession).IsWritable := Text.not_isConvertible_pow
  have fails := Slots.perform_of_not_isWritable (.fresh none) unwritable
  refine ⟨fails, ?_⟩
  rw [StoreStep.leaves, fails]
  nofun

end OtcDesk
