import OtcDesk.Proofs.Except
import OtcDesk.Record.Login
import OtcDesk.Record.Trade
import OtcDesk.Record.Proof

namespace OtcDesk

/-- The fault of an infinite number that is read as an integer. -/
def Fault.overflow : Fault := ⟨.tooLarge, "an infinite number has no integer value"⟩

/-- A fault for which a stored record is discarded. -/
def Fault.isDiscarded (fault : Fault) : Bool := fault.isMalformed && fault.cause != .notAnObject

theorem Fault.isMalformed_of_isDiscarded {fault : Fault} (discarded : fault.isDiscarded = true) :
    fault.isMalformed = true := (Bool.and_eq_true_iff.mp discarded).1

variable {α β : Type}

/-- A reading succeeds. -/
def Reads (reading : Except Fault α) : Prop := ∃ value, reading = .ok value

/-- A reading escapes under exactly this condition, and otherwise succeeds or is caught. -/
structure EscapesIff (caught : Fault → Bool) (escape : Fault → Prop) (reading : Except Fault α)
    (condition : Prop) : Prop where
  escapes : condition → ∃ fault, reading = .error fault ∧ escape fault
  tame : ¬ condition → ∀ fault, reading = .error fault → caught fault = true

namespace EscapesIff

variable {caught : Fault → Bool} {escape : Fault → Prop} {reading : Except Fault α}
  {condition : Prop}

theorem of_iff {other : Prop} (first : EscapesIff caught escape reading condition)
    (same : condition ↔ other) : EscapesIff caught escape reading other :=
  ⟨fun holds => first.escapes (same.mpr holds), fun fails => first.tame (mt same.mp fails)⟩

/-- More is caught, and more counts as an escape. -/
theorem mono {caughtToo : Fault → Bool} {escapeToo : Fault → Prop}
    (first : EscapesIff caught escape reading condition)
    (more : ∀ fault, caught fault = true → caughtToo fault = true)
    (wider : ∀ fault, escape fault → escapeToo fault) :
    EscapesIff caughtToo escapeToo reading condition where
  escapes holds := by
    obtain ⟨fault, failed, escaped⟩ := first.escapes holds
    exact ⟨fault, failed, wider fault escaped⟩
  tame fails fault failed := more fault (first.tame fails fault failed)

theorem ok (value : α) : EscapesIff caught escape (.ok value) False where
  escapes := False.elim
  tame := by
    intro _ fault failed
    cases failed

theorem error {fault : Fault} (isCaught : caught fault = true) :
    EscapesIff caught escape (.error fault : Except Fault α) False where
  escapes := False.elim
  tame := by
    intro _ found failed
    cases failed
    exact isCaught

/-- A reading that goes on with the result of another. -/
theorem bind {next : α → Except Fault β} {later : α → Prop}
    (first : EscapesIff caught escape reading condition)
    (rest : ∀ value, reading = .ok value → EscapesIff caught escape (next value) (later value)) :
    EscapesIff caught escape (reading >>= next)
      (condition ∨ ∃ value, reading = .ok value ∧ later value) := by
  cases read : reading with
  | error fault =>
      constructor
      · rintro (here | ⟨value, isOk, _⟩)
        · obtain ⟨found, failed, escaped⟩ := first.escapes here
          rw [read] at failed
          cases failed
          exact ⟨fault, rfl, escaped⟩
        · cases isOk
      · intro fine found failed
        cases failed
        exact first.tame (fun here => fine (.inl here)) fault read
  | ok value =>
      have second := rest value read
      constructor
      · rintro (here | ⟨same, isOk, there⟩)
        · obtain ⟨found, failed, _⟩ := first.escapes here
          rw [read] at failed
          cases failed
        · cases isOk
          exact second.escapes there
      · intro fine found failed
        exact second.tame (fun there => fine (.inr ⟨value, rfl, there⟩)) found failed

/-- A reading after another, where it makes no difference what the first one read. -/
theorem andThen {next : α → Except Fault β} {later : Prop}
    (first : EscapesIff caught escape reading condition)
    (rest : ∀ value, EscapesIff caught escape (next value) later) :
    EscapesIff caught escape (reading >>= next) (condition ∨ Reads reading ∧ later) := by
  apply (first.bind fun value _ => rest value).of_iff
  constructor
  · rintro (here | ⟨value, isOk, there⟩)
    · exact .inl here
    · exact .inr ⟨⟨value, isOk⟩, there⟩
  · rintro (here | ⟨⟨value, isOk⟩, there⟩)
    · exact .inl here
    · exact .inr ⟨value, isOk, there⟩

/-- What is made of the value that was read changes nothing. -/
theorem thenOk {next : α → β} (first : EscapesIff caught escape reading condition) :
    EscapesIff caught escape (reading >>= fun value => .ok (next value)) condition := by
  apply (first.andThen fun value => ok (next value)).of_iff
  rw [and_false, or_false]

/-- Two readings of which neither escapes. -/
theorem never {next : α → Except Fault β} (first : EscapesIff caught escape reading False)
    (rest : ∀ value, EscapesIff caught escape (next value) False) :
    EscapesIff caught escape (reading >>= next) False := by
  apply (first.andThen rest).of_iff
  rw [and_false, or_false]

end EscapesIff

/-- A reading overflows under exactly this condition, and otherwise succeeds or is malformed. -/
abbrev OverflowsIff (reading : Except Fault α) (condition : Prop) : Prop :=
  EscapesIff Fault.isMalformed (· = .overflow) reading condition

/-- The first of some items that cannot be read meets a condition. -/
def FirstUnread (read : Json → Except Fault α) (meets : Json → Prop) (items : List Json) : Prop :=
  ∃ earlier item later, items = earlier ++ item :: later ∧
    (∀ passed ∈ earlier, Reads (read passed)) ∧ meets item

variable {read : Json → Except Fault α} {meets : Json → Prop}

theorem not_firstUnread_nil : ¬ FirstUnread read meets [] := by
  rintro ⟨earlier, item, later, split, _⟩
  simp at split

theorem firstUnread_cons {item : Json} {items : List Json} :
    FirstUnread read meets (item :: items) ↔
      meets item ∨ Reads (read item) ∧ FirstUnread read meets items := by
  constructor
  · rintro ⟨earlier, unread, later, split, passed, met⟩
    cases earlier with
    | nil =>
        obtain ⟨rfl, rfl⟩ := List.cons.inj split
        exact .inl met
    | cons first rest =>
        obtain ⟨rfl, rfl⟩ := List.cons.inj split
        refine .inr ⟨passed _ List.mem_cons_self, rest, unread, later, rfl, ?_, met⟩
        exact fun other member => passed other (List.mem_cons_of_mem _ member)
  · rintro (met | ⟨fine, earlier, unread, later, rfl, passed, met⟩)
    · exact ⟨[], item, items, rfl, by simp, met⟩
    · refine ⟨item :: earlier, unread, later, rfl, ?_, met⟩
      intro other member
      rcases List.mem_cons.mp member with rfl | among
      · exact fine
      · exact passed other among

variable {caught : Fault → Bool} {escape : Fault → Prop}

/-- Items are read one after another, so the first one that cannot be read decides. -/
theorem EscapesIff.mapM (reads : ∀ item, EscapesIff caught escape (read item) (meets item))
    (items : List Json) :
    EscapesIff caught escape (items.mapM read) (FirstUnread read meets items) := by
  induction items with
  | nil =>
      rw [List.mapM_nil]
      exact (ok []).of_iff (iff_of_false id not_firstUnread_nil)
  | cons item items ih =>
      rw [List.mapM_cons]
      apply ((reads item).andThen fun value => ih.thenOk).of_iff
      exact firstUnread_cons.symm

/-- Of several items none escapes. -/
theorem EscapesIff.mapM_never (reads : ∀ item, EscapesIff caught escape (read item) False)
    (items : List Json) : EscapesIff caught escape (items.mapM read) False := by
  apply (EscapesIff.mapM reads items).of_iff
  simp [FirstUnread]

namespace Json

/-- An infinite number stands in a field. -/
def InfiniteAt (data : Table Json) (key : String) : Prop :=
  ∃ negative, data.get? key = some (.float (.infinite negative))

/-- An integer that cannot be read is a reason to discard its record, unless it is infinite. -/
theorem toInt_escapesIff (value : Json) :
    EscapesIff Fault.isDiscarded (· = .overflow) value.toInt
      (∃ negative, value = .float (.infinite negative)) := by
  have finite : ∀ {reading : Except Fault Int},
      EscapesIff Fault.isDiscarded (· = .overflow) reading False →
      (∀ negative, value ≠ .float (.infinite negative)) →
      EscapesIff Fault.isDiscarded (· = .overflow) reading
        (∃ negative, value = .float (.infinite negative)) :=
    fun never other => never.of_iff (iff_of_false id fun ⟨negative, same⟩ => other negative same)
  match value with
  | .float (.infinite negative) =>
      exact ⟨fun _ => ⟨_, rfl, rfl⟩, fun isFinite => absurd ⟨negative, rfl⟩ isFinite⟩
  | .bool value => exact finite (.ok _) nofun
  | .int value => exact finite (.ok _) nofun
  | .float .nan => exact finite (.error rfl) nofun
  | .float (.finite negative significand exponent) => exact finite (.ok _) nofun
  | .null => exact finite (.error rfl) nofun
  | .arr items => exact finite (.error rfl) nofun
  | .obj fields => exact finite (.error rfl) nofun
  | .str text =>
      rw [toInt]
      cases Text.integer? text with
      | some value => exact finite (.ok value) nofun
      | none => exact finite (.error rfl) nofun

theorem toInt_overflowsIff (value : Json) :
    OverflowsIff value.toInt (∃ negative, value = .float (.infinite negative)) :=
  value.toInt_escapesIff.mono (fun _ => Fault.isMalformed_of_isDiscarded) fun _ escaped => escaped

variable (data : Table Json) (key : String)

theorem integerField_overflowsIff :
    OverflowsIff (integerField data key) (InfiniteAt data key) := by
  unfold integerField InfiniteAt
  cases data.get? key with
  | none => exact (EscapesIff.ok 0).of_iff (by simp)
  | some value =>
      simp only [Option.bind_some, given?, Option.some.injEq]
      by_cases given : value.isGiven = true
      · rw [if_pos given]
        exact value.toInt_overflowsIff
      · rw [if_neg given]
        refine (EscapesIff.ok 0).of_iff (iff_of_false id ?_)
        rintro ⟨negative, rfl⟩
        exact given rfl

theorem optionalIntegerField_overflowsIff :
    OverflowsIff (optionalIntegerField data key) (InfiniteAt data key) := by
  unfold optionalIntegerField InfiniteAt
  split
  · rename_i absent
    exact (EscapesIff.ok none).of_iff (by simp [absent])
  · rename_i isNull
    exact (EscapesIff.ok none).of_iff (by simp [isNull])
  · rename_i value _ present
    simp only [present, map_eq_pure_bind, Option.some.injEq]
    exact value.toInt_overflowsIff.thenOk

/-- A list in a field is never too large. -/
theorem listField_overflowsIff : OverflowsIff (listField data key) False := by
  unfold listField
  split
  · rename_i value _
    cases value with
    | arr items => exact .ok items
    | str text => exact .ok _
    | obj fields => exact .ok _
    | null => exact .error rfl
    | bool value => exact .error rfl
    | int value => exact .error rfl
    | float value => exact .error rfl
  · exact .ok []

/-- What is read from the fields of a payload overflows only if the payload is an object. -/
theorem fields_overflowsIff {payload : Json} {read : Table Json → Except Fault α}
    {meets : Table Json → Prop} (reads : ∀ data, OverflowsIff (read data) (meets data)) :
    OverflowsIff (payload.fields >>= read) (∃ data, payload = .obj data ∧ meets data) := by
  cases payload with
  | obj data => exact (reads data).of_iff (by simp)
  | null => exact (EscapesIff.error rfl).of_iff (by simp)
  | bool value => exact (EscapesIff.error rfl).of_iff (by simp)
  | int value => exact (EscapesIff.error rfl).of_iff (by simp)
  | float value => exact (EscapesIff.error rfl).of_iff (by simp)
  | str text => exact (EscapesIff.error rfl).of_iff (by simp)
  | arr items => exact (EscapesIff.error rfl).of_iff (by simp)

end Json

open Json

theorem NonceChallenge.overflowsIff (payload : Json) :
    OverflowsIff (ofPayload payload) (∃ data, payload = .obj data ∧ InfiniteAt data "expires_at") :=
  fields_overflowsIff fun data => (integerField_overflowsIff data "expires_at").thenOk

theorem VerifiedToken.overflowsIff (payload : Json) :
    OverflowsIff (ofPayload payload) (∃ data, payload = .obj data ∧ InfiniteAt data "expires_at") :=
  fields_overflowsIff fun data => (integerField_overflowsIff data "expires_at").thenOk

/-- A record whose fields are read without overflow. -/
theorem overflowsNever_of_fields {payload : Json} {read : Table Json → Except Fault α}
    (reads : ∀ data, OverflowsIff (read data) False) :
    OverflowsIff (payload.fields >>= read) False := by
  apply (fields_overflowsIff reads).of_iff
  simp

theorem WalletIdentity.overflowsNever (payload : Json) : OverflowsIff (ofPayload payload) False :=
  overflowsNever_of_fields fun _ => .ok _

theorem IntentSubmission.overflowsNever (payload : Json) :
    OverflowsIff (ofPayload payload) False :=
  overflowsNever_of_fields fun data =>
    (listField_overflowsIff data "intent_ids").never fun _ =>
      (listField_overflowsIff data "commitment_hashes").thenOk

theorem ComplianceResult.overflowsNever (payload : Json) :
    OverflowsIff (ofPayload payload) False :=
  overflowsNever_of_fields fun _ => .ok _

theorem ProofJobAdmission.overflowsNever (payload : Json) :
    OverflowsIff (ofPayload payload) False :=
  overflowsNever_of_fields fun _ => .ok _

theorem ProofJobAdmission.field_overflowsNever (value : Option Json) :
    OverflowsIff (ofField? value) False := by
  unfold ofField?
  split
  · rw [map_eq_pure_bind]
    exact (overflowsNever _).thenOk
  · exact .ok none

/-- The answer to a trade holds no integers. -/
theorem OrchestrationResult.overflowsNever (payload : Json) :
    OverflowsIff (ofPayload payload) False := by
  apply overflowsNever_of_fields
  intro data
  apply (listField_overflowsIff data "intent_submissions").never
  intro submissions
  apply (EscapesIff.mapM_never IntentSubmission.overflowsNever submissions).never
  intro intentSubmissions
  apply (listField_overflowsIff data "compliance_results").never
  intro checks
  apply (EscapesIff.mapM_never ComplianceResult.overflowsNever checks).never
  intro complianceResults
  exact (ProofJobAdmission.field_overflowsNever _).thenOk

/-- The moment of a transition is an infinite number. -/
def Transition.MeetsInfinity (payload : Json) : Prop :=
  ∃ data, payload = .obj data ∧ InfiniteAt data "transitioned_at"

theorem Transition.instant_overflowsIff (data : Table Json) (key : String) :
    OverflowsIff (instant data key) (InfiniteAt data key) := by
  unfold instant InfiniteAt
  cases data.get? key with
  | none => exact (EscapesIff.ok 0).of_iff (by simp)
  | some value =>
      simp only [Option.some.injEq]
      exact value.toInt_overflowsIff

theorem Transition.overflowsIff (payload : Json) :
    OverflowsIff (ofPayload payload) (MeetsInfinity payload) :=
  fields_overflowsIff fun data => (instant_overflowsIff data "transitioned_at").thenOk

/-- An infinite number is met among the integers of a job that can be read so far. -/
def ProofJob.MeetsInfinity (payload : Json) : Prop :=
  ∃ data, payload = .obj data ∧
    (InfiniteAt data "attempt_count" ∨ Reads (integerField data "attempt_count") ∧
      (InfiniteAt data "retry_count" ∨ Reads (integerField data "retry_count") ∧
        (InfiniteAt data "queue_latency_ms" ∨
          Reads (optionalIntegerField data "queue_latency_ms") ∧
          (InfiniteAt data "prove_duration_ms" ∨
            Reads (optionalIntegerField data "prove_duration_ms") ∧
            ∃ items, listField data "transitions" = .ok items ∧
              FirstUnread Transition.ofPayload Transition.MeetsInfinity items))))

/-- What is read from the items of a field overflows only at the first that cannot be read. -/
theorem OverflowsIff.listField {read : Json → Except Fault α} {meets : Json → Prop}
    (reads : ∀ item, OverflowsIff (read item) (meets item)) (data : Table Json) (key : String) :
    OverflowsIff (Json.listField data key >>= (List.mapM read ·))
      (∃ items, Json.listField data key = .ok items ∧ FirstUnread read meets items) := by
  apply ((listField_overflowsIff data key).bind fun items _ => EscapesIff.mapM reads items).of_iff
  rw [false_or]

theorem ProofJob.overflowsIff (payload : Json) :
    OverflowsIff (ofPayload payload) (MeetsInfinity payload) := by
  apply fields_overflowsIff
  intro data
  apply (integerField_overflowsIff data "attempt_count").andThen
  intro attemptCount
  apply (integerField_overflowsIff data "retry_count").andThen
  intro retryCount
  apply (optionalIntegerField_overflowsIff data "queue_latency_ms").andThen
  intro queueLatencyMs
  apply (optionalIntegerField_overflowsIff data "prove_duration_ms").andThen
  intro proveDurationMs
  rw [← bind_assoc]
  exact (OverflowsIff.listField Transition.overflowsIff data "transitions").thenOk

/-- An infinite number is met in the first job that cannot be read. -/
def ProofJobsByRun.MeetsInfinity (data : Table Json) : Prop :=
  ∃ items, listField data "jobs" = .ok items ∧
    FirstUnread ProofJob.ofPayload ProofJob.MeetsInfinity items

theorem ProofJobsByRun.overflowsIff (payload : Json) :
    OverflowsIff (ofPayload payload) (∃ data, payload = .obj data ∧ MeetsInfinity data) := by
  apply fields_overflowsIff
  intro data
  rw [← bind_assoc]
  exact (OverflowsIff.listField ProofJob.overflowsIff data "jobs").thenOk

end OtcDesk
