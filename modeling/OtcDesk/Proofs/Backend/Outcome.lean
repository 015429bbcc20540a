import OtcDesk.Proofs.Backend.Remote
import OtcDesk.Proofs.Json.Depth
import OtcDesk.Proofs.Json.Text

namespace OtcDesk.Remote

open Json (HoldsObject)

variable {α : Type} {operation : String} {status : Int} {body : Bytes}

/-- What is taken from an object under a key, or something fixed in its place. -/
def Takes (fields : Table Json) (key : String) (read : Json → α) (otherwise taken : α) : Prop :=
  (∃ value, fields.get? key = some value ∧ value.isGiven = true ∧ taken = read value) ∨
    (∀ value, fields.get? key = some value → value.isGiven = false) ∧ taken = otherwise

theorem takes_iff {fields : Table Json} {key : String} {read : Json → α} {otherwise taken : α} :
    Takes fields key read otherwise taken ↔
      taken = (((fields.get? key).bind Json.given?).map read).getD otherwise := by
  unfold Takes
  cases found : fields.get? key with
  | none => simp
  | some value => cases given : value.isGiven <;> simp [Json.given?, given]

/-- The code of a rejection is what the object has for it, or null. -/
def TakesCode (fields : Table Json) (code : Json) : Prop :=
  Takes fields "error_code" id .null code

/-- The reason of a rejection is what the object has for it, or names the status. -/
def TakesReason (operation : String) (status : Int) (fields : Table Json) (reason : String) : Prop :=
  Takes fields "reason" Json.text (operation ++ " failed (" ++ toString status ++ ")") reason

theorem TakesCode.unique {fields : Table Json} {code other : Json} (takes : TakesCode fields code)
    (also : TakesCode fields other) : code = other :=
  (takes_iff.mp takes).trans (takes_iff.mp also).symm

theorem TakesReason.unique {fields : Table Json} {reason other : String}
    (takes : TakesReason operation status fields reason)
    (also : TakesReason operation status fields other) : reason = other :=
  (takes_iff.mp takes).trans (takes_iff.mp also).symm

/-- A reason has a text. -/
theorem TakesReason.ne_empty {fields : Table Json} {reason : String}
    (takes : TakesReason operation status fields reason) : reason ≠ "" := by
  rcases takes with ⟨value, _, given, rfl⟩ | ⟨_, rfl⟩
  · exact Json.text_ne_empty_of_isGiven given
  · simp

/-- What a response amounts to. -/
inductive Amounts (operation : String) (status : Int) (body : Bytes) :
    Except Failure (Table Json) → Prop where
  | object {fields : Table Json} (success : 200 ≤ status ∧ status ≤ 299)
      (holds : HoldsObject body fields) : Amounts operation status body (.ok fields)
  | rejection {fields : Table Json} {code : Json} {reason : String}
      (failure : ¬ (200 ≤ status ∧ status ≤ 299)) (holds : HoldsObject body fields)
      (coded : TakesCode fields code) (explained : TakesReason operation status fields reason) :
      Amounts operation status body (.error (.desk (.rejection code reason (some status))))
  | transport {message : String} (shallow : Json.readBody body ≠ .error .tooDeep)
      (broken : ∀ fields, ¬ HoldsObject body fields) (solid : message ≠ "") :
      Amounts operation status body (.error (.desk (.transport message (some status))))
  | nested (deep : Json.readBody body = .error .tooDeep) :
      Amounts operation status body (.error (.fault Json.ReadFault.tooDeep.fault))

theorem isSuccess_iff : isSuccess status = true ↔ 200 ≤ status ∧ status ≤ 299 := by
  rw [isSuccess, Bool.and_eq_true, decide_eq_true_eq, decide_eq_true_eq]
  omega

/-- Every response amounts to something. -/
theorem decode_amounts (operation : String) (status : Int) (body : Bytes) :
    Amounts operation status body (decode operation status body) := by
  by_cases deep : Json.readBody body = .error .tooDeep
  · rw [decode_tooDeep operation status deep]
    exact .nested deep
  rw [decode_eq_judge operation status deep]
  unfold judge
  split
  · rename_i success
    split
    · rename_i fields read
      exact .object (isSuccess_iff.mp success) (Json.readBody?_obj_iff.mp read)
    · rename_i broken
      have noObject := fun fields holds => broken fields (Json.readBody?_obj_iff.mpr holds)
      exact .transport deep noObject (by simp)
  · rename_i failure
    split
    · rename_i fields read
      refine .rejection (mt isSuccess_iff.mpr failure) (Json.readBody?_obj_iff.mp read) ?_ ?_
      · rw [TakesCode, takes_iff, Option.map_id]
        rfl
      · exact takes_iff.mpr rfl
    · rename_i broken
      have noObject := fun fields holds => broken fields (Json.readBody?_obj_iff.mpr holds)
      exact .transport deep noObject (by simp [failed])

/-- What holds an object is not nested too deep. -/
theorem readBody_of_holds {fields : Table Json} (holds : HoldsObject body fields) :
    Json.readBody body ≠ .error .tooDeep := by
  intro deep
  have read := Json.readBody?_obj_iff.mpr holds
  rw [Json.readBody?, deep] at read
  cases read

theorem coded_ne_empty (code : Json) {reason : String} (solid : reason ≠ "") :
    DeskError.coded code reason ≠ "" := by
  rw [DeskError.coded]
  split
  · simp
  · exact solid

/-- The text of a refusal is not empty. -/
theorem Amounts.message_ne_empty {refusal : DeskError}
    (amounts : Amounts operation status body (.error (.desk refusal))) : refusal.message ≠ "" := by
  cases amounts with
  | rejection failure holds coded explained => exact coded_ne_empty _ explained.ne_empty
  | transport shallow broken solid => exact solid

/-- An object is returned from a success that holds it. -/
theorem decode_eq_ok_iff {data : Table Json} :
    decode operation status body = .ok data ↔
      (200 ≤ status ∧ status ≤ 299) ∧ HoldsObject body data := by
  have amounts := decode_amounts operation status body
  constructor
  · intro returned
    rw [returned] at amounts
    cases amounts with
    | object success holds => exact ⟨success, holds⟩
  · rintro ⟨success, holds⟩
    generalize decode operation status body = result at amounts
    cases amounts with
    | object _ also => rw [holds.unique also]
    | rejection failure => exact absurd success failure
    | transport _ broken => exact absurd holds (broken data)
    | nested deep => exact absurd deep (readBody_of_holds holds)

/-- A rejection is raised for a failure that holds an object. -/
theorem decode_eq_rejection_iff {code : Json} {reason : String} {reported : Option Int} :
    decode operation status body = .error (.desk (.rejection code reason reported)) ↔
      ¬ (200 ≤ status ∧ status ≤ 299) ∧ reported = some status ∧
        ∃ fields, HoldsObject body fields ∧ TakesCode fields code ∧
          TakesReason operation status fields reason := by
  have amounts := decode_amounts operation status body
  constructor
  · intro raised
    rw [raised] at amounts
    cases amounts with
    | rejection failure holds coded explained => exact ⟨failure, rfl, _, holds, coded, explained⟩
  · rintro ⟨failure, rfl, fields, holds, coded, explained⟩
    generalize decode operation status body = result at amounts
    cases amounts with
    | object success => exact absurd success failure
    | rejection _ also codedAlso explainedAlso =>
        obtain rfl := holds.unique also
        rw [coded.unique codedAlso, explained.unique explainedAlso]
    | transport _ broken => exact absurd holds (broken fields)
    | nested deep => exact absurd deep (readBody_of_holds holds)

/-- A transport error is raised for a body that holds no object and is not nested too deep. -/
theorem decode_eq_transport_iff :
    (∃ message,
        decode operation status body = .error (.desk (.transport message (some status)))) ↔
      Json.readBody body ≠ .error .tooDeep ∧ ∀ fields, ¬ HoldsObject body fields := by
  have amounts := decode_amounts operation status body
  constructor
  · rintro ⟨message, raised⟩
    rw [raised] at amounts
    cases amounts with
    | transport shallow broken => exact ⟨shallow, broken⟩
  · rintro ⟨shallow, broken⟩
    generalize decode operation status body = result at amounts
    cases amounts with
    | object _ holds => exact absurd holds (broken _)
    | rejection _ holds => exact absurd holds (broken _)
    | transport => exact ⟨_, rfl⟩
    | nested deep => exact absurd deep shallow

/-- What escapes is the fault of a body that is nested too deep. -/
theorem decode_eq_fault_iff {fault : Fault} :
    decode operation status body = .error (.fault fault) ↔
      Json.readBody body = .error .tooDeep ∧ fault = Json.ReadFault.tooDeep.fault := by
  constructor
  · intro escaped
    have amounts := decode_amounts operation status body
    rw [escaped] at amounts
    cases amounts with
    | nested deep => exact ⟨deep, rfl⟩
  · rintro ⟨deep, rfl⟩
    exact decode_tooDeep operation status deep

/-- A response is an object, a rejection or a transport error, unless it is nested too deep. -/
theorem response_classified_unless_deep (operation : String) (status : Int) (body : Bytes) :
    (∀ data, decode operation status body = .ok data ↔
      (200 ≤ status ∧ status ≤ 299) ∧ HoldsObject body data) ∧
    (∀ code reason reported,
      decode operation status body = .error (.desk (.rejection code reason reported)) ↔
        ¬ (200 ≤ status ∧ status ≤ 299) ∧ reported = some status ∧
          ∃ fields, HoldsObject body fields ∧ TakesCode fields code ∧
            TakesReason operation status fields reason) ∧
    ((∃ message,
        decode operation status body = .error (.desk (.transport message (some status)))) ↔
      Json.readBody body ≠ .error .tooDeep ∧ ∀ fields, ¬ HoldsObject body fields) ∧
    (∀ fault, decode operation status body = .error (.fault fault) ↔
      Json.readBody body = .error .tooDeep ∧ fault = Json.ReadFault.tooDeep.fault) ∧
    (∀ refusal, decode operation status body = .error (.desk refusal) → refusal.message ≠ "") ∧
    (Json.readBody? body = none →
      ∀ code reason reported,
        decode operation status body ≠ .error (.desk (.rejection code reason reported))) := by
  refine ⟨fun data => decode_eq_ok_iff, fun code reason reported => decode_eq_rejection_iff,
    decode_eq_transport_iff, fun fault => decode_eq_fault_iff, ?solid, ?undecodable⟩
  case solid =>
    intro refusal raised
    have amounts := decode_amounts operation status body
    rw [raised] at amounts
    exact amounts.message_ne_empty
  case undecodable =>
    intro unread code reason reported raised
    obtain ⟨_, _, fields, holds, _⟩ := decode_eq_rejection_iff.mp raised
    rw [Json.readBody?_obj_iff.mpr holds] at unread
    cases unread

/-- The object `{"error_code": 7, "reason": ""}` in UTF-16 behind its byte order mark. -/
def wideRefusal : Bytes :=
  (Json.Encoding.utf16 false true).encode
    ("\x7b\"error_code\": 7, \"reason\": \"\"\x7d".toList.map Char.toNat)

/-- A refusal in UTF-16 that leaves out its reason is a rejection, and a broken one is none. -/
theorem wideRefusal_rejected :
    decode "wallet verify" 403 wideRefusal =
        .error (.desk (.rejection (.int 7) "wallet verify failed (403)" (some 403))) ∧
      (∃ message, decode "wallet verify" 403 [0x7b, 0xff] =
        .error (.desk (.transport message (some 403)))) ∧
      ∀ code reason reported, decode "wallet verify" 403 [0x7b, 0xff] ≠
        .error (.desk (.rejection code reason reported)) := by
  have holds : HoldsObject wideRefusal [("error_code", .int 7), ("reason", .str "")] := by
    rw [← Json.readBody?_obj_iff]
    decide +kernel
  have unread : Json.readBody? [0x7b, 0xff] = none := by decide +kernel
  have shallow : Json.readBody [0x7b, 0xff] ≠ .error .tooDeep := by decide +kernel
  have broken : ∀ fields, ¬ HoldsObject [0x7b, 0xff] fields := by
    intro fields holds
    rw [Json.readBody?_obj_iff.mpr holds] at unread
    cases unread
  obtain ⟨_, rejected, -⟩ := response_classified_unless_deep "wallet verify" 403 wideRefusal
  obtain ⟨_, _, transported, _, _, never⟩ :=
    response_classified_unless_deep "wallet verify" 403 [0x7b, 0xff]
  refine ⟨?_, transported.mpr ⟨shallow, broken⟩, never unread⟩
  apply (rejected _ _ _).mpr
  refine ⟨by decide, rfl, _, holds, .inl ⟨.int 7, rfl, rfl, rfl⟩, .inr ⟨?_, by decide⟩⟩
  rintro value ⟨⟩
  rfl

/-- A thousand brackets, opened and closed again. -/
def nestedBody : Bytes :=
  Json.Encoding.utf8.encode
    ((List.replicate 1000 '[' ++ List.replicate 1000 ']').map Char.toNat)

/-- A success with this body is no transport error. -/
theorem nestedBody_untyped : decode "wallet me" 200 nestedBody ≠
    .error (.desk (.transport "wallet me returned non-JSON response" (some 200))) := by
  have deep : Json.readBody nestedBody = .error .tooDeep :=
    Json.readBody_brackets (by decide) (List.replicate 1000 ']')
  rw [decode_tooDeep "wallet me" 200 deep]
  nofun

end OtcDesk.Remote
