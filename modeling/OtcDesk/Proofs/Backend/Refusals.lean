import OtcDesk.Proofs.Backend.Remote
import OtcDesk.Proofs.Text.Control

namespace OtcDesk

open Json (Uncontrolled uncontrolled_of_all)
open Text (Relays relays_self relays_of_uncontrolled relays_toString)

variable {α : Type}

/-- No control character stands in the text of a fault. -/
def Fault.isLegible (fault : Fault) : Bool := fault.text.toList.all (0x20 ≤ ·.toNat)

/-- A reading fails with legible faults only. -/
abbrev FailsLegibly (reading : Except Fault α) : Prop :=
  EscapesIff Fault.isLegible (fun _ => False) reading False

namespace Json

theorem toInt_failsLegibly (value : Json) : FailsLegibly value.toInt := by
  match value with
  | .bool value => exact .ok _
  | .int value => exact .ok _
  | .float .nan => exact .error (by decide)
  | .float (.infinite negative) => exact .error (by decide)
  | .float (.finite negative significand exponent) => exact .ok _
  | .null => exact .error (by decide)
  | .arr items => exact .error (by decide)
  | .obj fields => exact .error (by decide)
  | .str text =>
      rw [toInt]
      cases Text.integer? text with
      | some value => exact .ok value
      | none =>
          apply EscapesIff.error
          have front : Uncontrolled "the text is not an integer: ".toList :=
            uncontrolled_of_all (by decide)
          have whole := front.append (Text.uncontrolled_quoted text)
          rw [← String.toList_append] at whole
          exact List.all_eq_true.mpr fun c member => decide_eq_true (whole c member)

variable (data : Table Json) (key : String)

theorem integerField_failsLegibly : FailsLegibly (integerField data key) := by
  unfold integerField
  split
  · exact toInt_failsLegibly _
  · exact .ok 0

theorem optionalIntegerField_failsLegibly : FailsLegibly (optionalIntegerField data key) := by
  unfold optionalIntegerField
  split
  · exact .ok none
  · exact .ok none
  · rw [map_eq_pure_bind]
    exact (toInt_failsLegibly _).thenOk

theorem listField_failsLegibly : FailsLegibly (listField data key) := by
  unfold listField
  split
  · rename_i value _
    cases value with
    | arr items => exact .ok items
    | str text => exact .ok _
    | obj fields => exact .ok _
    | null => exact .error (by decide)
    | bool value => exact .error (by decide)
    | int value => exact .error (by decide)
    | float value => exact .error (by decide)
  · exact .ok []

theorem fields_failsLegibly (payload : Json) : FailsLegibly payload.fields := by
  cases payload with
  | obj data => exact .ok data
  | null => exact .error (by decide)
  | bool value => exact .error (by decide)
  | int value => exact .error (by decide)
  | float value => exact .error (by decide)
  | str text => exact .error (by decide)
  | arr items => exact .error (by decide)

end Json

open Json

theorem Transition.failsLegibly (payload : Json) : FailsLegibly (ofPayload payload) := by
  apply (fields_failsLegibly payload).never
  intro data
  have moment : FailsLegibly (instant data "transitioned_at") := by
    unfold instant
    split
    · exact toInt_failsLegibly _
    · exact .ok 0
  exact moment.thenOk

theorem ProofJob.failsLegibly (payload : Json) : FailsLegibly (ofPayload payload) := by
  apply (fields_failsLegibly payload).never
  intro data
  apply (integerField_failsLegibly data "attempt_count").never
  intro attemptCount
  apply (integerField_failsLegibly data "retry_count").never
  intro retryCount
  apply (optionalIntegerField_failsLegibly data "queue_latency_ms").never
  intro queueLatencyMs
  apply (optionalIntegerField_failsLegibly data "prove_duration_ms").never
  intro proveDurationMs
  apply (listField_failsLegibly data "transitions").never
  intro items
  exact (EscapesIff.mapM_never Transition.failsLegibly items).thenOk

/-- Whatever stands in an answer, the fault for which it is malformed is legible. -/
theorem ProofJobsByRun.failsLegibly (payload : Json) : FailsLegibly (ofPayload payload) := by
  apply (fields_failsLegibly payload).never
  intro data
  apply (listField_failsLegibly data "jobs").never
  intro items
  exact (EscapesIff.mapM_never ProofJob.failsLegibly items).thenOk

/-- The texts of a reply that its refusal quotes. -/
def Reply.quoted : Reply → List String
  | .failure message | .badAddress message => [message]
  | .response status body =>
    if Remote.isSuccess status then []
    else
      match Json.readBody? body with
      | some (.obj fields) =>
        ((Table.get? "error_code" fields).bind Json.given?).toList.map Json.text ++
          ((Table.get? "reason" fields).bind Json.given?).toList.map Json.text
      | _ => [Utf8.decodeLossy body]

namespace Remote

theorem failed_relays {operation : String} (plain : Uncontrolled operation.toList) (status : Int) :
    Relays (failed operation status) [] :=
  (((relays_of_uncontrolled plain).before " failed (" (by decide)).append
    (relays_toString status)).before ")" (by decide)

/-- The text of a rejection quotes its code, if it has one, and its reason. -/
theorem coded_relays (code : Option Json) {reason : String} {parts : List String}
    (relays : Relays reason parts) :
    Relays (DeskError.coded ((code.bind Json.given?).getD .null) reason)
      ((code.bind Json.given?).toList.map Json.text ++ parts) := by
  cases found : code.bind Json.given? with
  | none => exact relays
  | some value =>
      have given : value.isGiven = true := by
        obtain ⟨same, -, kept⟩ := Option.bind_eq_some_iff.mp found
        unfold Json.given? at kept
        split at kept
        · rename_i isGiven
          obtain rfl := Option.some.inj kept
          exact isGiven
        · cases kept
      rw [Option.getD_some, DeskError.coded, if_pos given]
      exact (((relays_self value.text).after "[" (by decide)).before "] " (by decide)).append relays

variable {operation : String} {refusal : DeskError}

/-- The refusal of a response quotes what the response has for it. -/
theorem judge_relays (plain : Uncontrolled operation.toList) {status : Int} {body : Bytes}
    (refused : judge operation status body (Json.readBody? body) = .error refusal) :
    Relays refusal.message (Reply.response status body).quoted := by
  have broken : Relays (failed operation status ++ ": " ++
      Text.orElse (Utf8.decodeLossy body) "empty response") [Utf8.decodeLossy body] :=
    ((failed_relays plain status).before ": " (by decide)).append
      (Text.relays_orElse (Utf8.decodeLossy body) "empty response" (by decide))
  unfold judge at refused
  rw [Reply.quoted]
  by_cases success : isSuccess status = true
  · rw [if_pos success] at refused ⊢
    split at refused
    · cases refused
    · cases refused
      exact (relays_of_uncontrolled plain).before " returned non-JSON response" (by decide)
  · rw [if_neg success] at refused ⊢
    generalize Json.readBody? body = read at refused ⊢
    match read with
    | some (.obj fields) =>
        cases refused
        apply coded_relays (Table.get? "error_code" fields)
        cases (Table.get? "reason" fields).bind Json.given? with
        | none => exact failed_relays plain status
        | some reason => exact relays_self reason.text
    | none | some .null | some (.bool _) | some (.int _) | some (.float _) | some (.str _)
    | some (.arr _) =>
        cases refused
        exact broken

/-- The refusal of a reply quotes what the reply has for it. -/
theorem receive_relays (plain : Uncontrolled operation.toList) {reply : Reply}
    (refused : receive operation reply = .error (.desk refusal)) :
    Relays refusal.message reply.quoted := by
  cases reply with
  | badAddress message => cases refused
  | failure message =>
      cases refused
      exact ((relays_of_uncontrolled plain).before " failed: " (by decide)).append
        (relays_self message)
  | response status body =>
      rw [receive] at refused
      by_cases deep : Json.readBody body = .error .tooDeep
      · rw [decode_tooDeep operation status deep] at refused
        cases refused
      rw [decode_eq_judge operation status deep] at refused
      cases judged : judge operation status body (Json.readBody? body) with
      | ok fields =>
          rw [judged] at refused
          cases refused
      | error found =>
          rw [judged] at refused
          cases refused
          exact judge_relays plain judged

/-- A success with an object has nothing for a refusal. -/
theorem quoted_of_received {reply : Reply} {fields : Table Json}
    (received : receive operation reply = .ok fields) : reply.quoted = [] := by
  cases reply with
  | badAddress message => cases received
  | failure message => cases received
  | response status body =>
      by_cases success : isSuccess status = true
      · rw [Reply.quoted, if_pos success]
      rw [receive] at received
      by_cases deep : Json.readBody body = .error .tooDeep
      · rw [decode_tooDeep operation status deep] at received
        cases received
      rw [decode_eq_judge operation status deep] at received
      unfold judge at received
      rw [if_neg success] at received
      split at received
      · cases received
      · cases received

/-- What a fetch is refused with quotes at most what its reply has for a refusal. -/
theorem fetchProofJobs_relays {remote : Remote} {reply : Reply} {later : List Reply}
    (next : remote.replies = reply :: later) {run : String} {token : Option String}
    (refused : (fetchProofJobs run token remote).1 = .error (.desk refusal)) :
    Relays refusal.message reply.quoted := by
  have plain : Uncontrolled "proof-jobs fetch".toList := uncontrolled_of_all (by decide)
  rw [fetchProofJobs, ask_reply next] at refused
  cases received : receive "proof-jobs fetch" reply with
  | error failure =>
      rw [received] at refused
      cases refused
      exact receive_relays plain received
  | ok fields =>
      rw [quoted_of_received received]
      rw [received] at refused
      change Backend.readAnswer ProofJobsByRun.ofPayload (.obj fields) "proof-jobs fetch" = _
        at refused
      unfold Backend.readAnswer at refused
      split at refused
      · cases refused
      · rename_i fault failed
        have legible := (ProofJobsByRun.failsLegibly (.obj fields)).tame id fault failed
        split at refused
        · cases refused
          have text := relays_of_uncontrolled (uncontrolled_of_all legible)
          exact text.after "proof-jobs fetch returned malformed response: " (by decide)
        · cases refused

end Remote

end OtcDesk
