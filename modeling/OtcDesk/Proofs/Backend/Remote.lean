import OtcDesk.Backend.Remote
import OtcDesk.Proofs.Json.Bounds
import OtcDesk.Proofs.Record.Reading

namespace OtcDesk

variable {α : Type}

/-- A call ends with its record, with a transport error or with a rejection. -/
def isTyped : Except Failure α → Bool
  | .ok _ | .error (.desk (.transport ..)) | .error (.desk (.rejection ..)) => true
  | .error _ => false

/-- A call escapes with one of some faults, and is typed if there is none. -/
structure TypedUnless (escape : Fault → Prop) (result : Except Failure α) : Prop where
  escapes : ∀ fault, escape fault → result = .error (.fault fault)
  typed : (∀ fault, ¬ escape fault) → isTyped result = true

theorem TypedUnless.of_iff {escape other : Fault → Prop} {result : Except Failure α}
    (ends : TypedUnless escape result) (same : ∀ fault, escape fault ↔ other fault) :
    TypedUnless other result :=
  ⟨fun fault holds => ends.escapes fault ((same fault).mpr holds),
    fun fine => ends.typed fun fault holds => fine fault ((same fault).mp holds)⟩

/-- The network brings a response or fails; it has no complaint about the address. -/
def Reply.IsExchange : Reply → Prop
  | .response .. | .failure _ => True
  | .badAddress _ => False

/-- A reply is a success with an object in its body. -/
def Reply.Brings (reply : Reply) (data : Table Json) : Prop :=
  ∃ status body, reply = .response status body ∧ Remote.isSuccess status = true ∧
    Json.readBody? body = some (.obj data)

/-- A reply is a response whose body is nested too deep. -/
def Reply.IsTooDeep (reply : Reply) : Prop :=
  ∃ status body, reply = .response status body ∧ Json.readBody body = .error .tooDeep

/-- A reply lets a fault escape if it is nested too deep or meets a number that overflows. -/
inductive Reply.Escapes (reply : Reply) (meets : Table Json → Prop) : Fault → Prop where
  | deep (nested : reply.IsTooDeep) : Escapes reply meets Json.ReadFault.tooDeep.fault
  | infinite (data : Table Json) (brings : reply.Brings data) (met : meets data) :
      Escapes reply meets .overflow

/-- What brings an object is not nested too deep. -/
theorem Reply.Brings.not_tooDeep {reply : Reply} {data : Table Json} (brings : reply.Brings data) :
    ¬ reply.IsTooDeep := by
  obtain ⟨status, body, rfl, _, read⟩ := brings
  rintro ⟨_, _, ⟨⟩, deep⟩
  rw [Json.readBody?, deep] at read
  cases read

namespace Backend

/-- An answer that is read is typed unless the reading overflows. -/
theorem readAnswer_typedUnless {read : Json → Except Fault α} {payload : Json} {condition : Prop}
    (reads : OverflowsIff (read payload) condition) (operation : String) :
    TypedUnless (fun fault => condition ∧ fault = .overflow) (readAnswer read payload operation) := by
  constructor
  · rintro _ ⟨overflows, rfl⟩
    obtain ⟨_, failed, rfl⟩ := reads.escapes overflows
    rw [readAnswer, failed]
    rfl
  · intro escapes
    have fine : ¬ condition := fun overflows => escapes _ ⟨overflows, rfl⟩
    unfold readAnswer
    split
    · rfl
    · rename_i fault failed
      rw [if_pos (reads.tame fine fault failed)]
      rfl

end Backend

namespace Remote

/-- A body that is nested too deep lets that fault escape. -/
theorem decode_tooDeep (operation : String) (status : Int) {body : Bytes}
    (deep : Json.readBody body = .error .tooDeep) :
    decode operation status body = .error (.fault Json.ReadFault.tooDeep.fault) := by
  rw [decode, deep]

/-- Any other body is judged by what was read of it. -/
theorem decode_eq_judge (operation : String) (status : Int) {body : Bytes}
    (shallow : Json.readBody body ≠ .error .tooDeep) :
    decode operation status body =
      (judge operation status body (Json.readBody? body)).mapError .desk := by
  rw [decode, Json.readBody?]
  split
  · rename_i deep
    exact absurd deep shallow
  · rfl

/-- The object of a success is received. -/
theorem receive_brings (operation : String) {reply : Reply} {data : Table Json}
    (brings : reply.Brings data) : receive operation reply = .ok data := by
  have shallow := brings.not_tooDeep
  obtain ⟨status, body, rfl, success, read⟩ := brings
  rw [receive, decode_eq_judge operation status fun deep => shallow ⟨status, body, rfl, deep⟩, read,
    judge, if_pos success]
  rfl

/-- A body without an object is refused with a typed error. -/
theorem judge_refuses (operation : String) {status : Int} (body : Bytes) {payload : Option Json}
    (brings : ¬ ∃ data, isSuccess status = true ∧ payload = some (.obj data)) :
    ∃ refusal, judge operation status body payload = .error refusal ∧
      isTyped (.error (.desk refusal) : Except Failure α) = true := by
  unfold judge
  split
  · rename_i success
    split
    · rename_i data
      exact absurd ⟨data, success, rfl⟩ brings
    · exact ⟨_, rfl, rfl⟩
  · split
    · exact ⟨_, rfl, rfl⟩
    · exact ⟨_, rfl, rfl⟩

/-- Every exchange that brings no object and is not nested too deep is refused with a typed error. -/
theorem receive_refuses (operation : String) {reply : Reply} (exchange : reply.IsExchange)
    (shallow : ¬ reply.IsTooDeep) (brings : ¬ ∃ data, reply.Brings data) :
    ∃ failure, receive operation reply = .error failure ∧
      isTyped (.error failure : Except Failure α) = true := by
  cases reply with
  | badAddress message => exact exchange.elim
  | failure message => exact ⟨_, rfl, rfl⟩
  | response status body =>
      have noObject : ¬ ∃ data, isSuccess status = true ∧ Json.readBody? body = some (.obj data) := by
        rintro ⟨data, success, read⟩
        exact brings ⟨data, status, body, rfl, success, read⟩
      obtain ⟨refusal, refused, typed⟩ := judge_refuses (α := α) operation body noObject
      refine ⟨.desk refusal, ?_, typed⟩
      rw [receive, decode_eq_judge operation status fun deep => shallow ⟨status, body, rfl, deep⟩,
        refused]
      rfl

/-- A reply that is nested too deep is not received. -/
theorem receive_tooDeep (operation : String) {reply : Reply} (deep : reply.IsTooDeep) :
    receive operation reply = .error (.fault Json.ReadFault.tooDeep.fault) := by
  obtain ⟨status, body, rfl, nested⟩ := deep
  exact decode_tooDeep operation status nested

/-- What is received is the object that the reply brings. -/
theorem receive_eq_ok {operation : String} {reply : Reply} {data : Table Json} :
    receive operation reply = .ok data ↔ reply.Brings data := by
  refine ⟨fun received => ?_, receive_brings operation⟩
  by_cases exchange : reply.IsExchange
  · by_cases deep : reply.IsTooDeep
    · rw [receive_tooDeep operation deep] at received
      cases received
    · apply Classical.byContradiction
      intro other
      by_cases brings : ∃ data, reply.Brings data
      · obtain ⟨found, brought⟩ := brings
        rw [receive_brings operation brought] at received
        exact other (Except.ok.inj received ▸ brought)
      · obtain ⟨failure, refused, _⟩ := receive_refuses (α := Unit) operation exchange deep brings
        rw [refused] at received
        cases received
  · cases reply with
    | response status body => exact absurd trivial exchange
    | failure message => exact absurd trivial exchange
    | badAddress message => cases received

/-- The integers of an object that a reply brings can be converted. -/
theorem isConvertible_of_brings {reply : Reply} {data : Table Json} (brings : reply.Brings data)
    {key : String} {number : Int} (read : Json.integerField data key = .ok number) :
    Text.isConvertible number = true := by
  obtain ⟨status, body, _, _, found⟩ := brings
  unfold Json.integerField at read
  split at read
  · rename_i value given
    obtain ⟨other, here, same⟩ := Option.bind_eq_some_iff.mp given
    unfold Json.given? at same
    split at same
    · obtain rfl := Option.some.inj same
      exact Json.isBounded_of_readBody (toOption_eq_some.mp found) here number read
    · cases same
  · rw [← Except.ok.inj read]
    decide

variable {remote : Remote} {reply : Reply} {later : List Reply}

/-- A call ends as the next reply has it. -/
theorem ask_reply (next : remote.replies = reply :: later) (read : Json → Except Fault α)
    (method : Method) (path operation : String) (json : Option Json) (token : Option String) :
    (ask read method path operation json token remote).1 =
      (receive operation reply).bind fun fields =>
        Backend.readAnswer read (.obj fields) operation := by
  simp only [ask, send, next]

/-- A call whose reply brings an object reads its record from that object. -/
theorem ask_brings (next : remote.replies = reply :: later) {data : Table Json}
    (brings : reply.Brings data) (read : Json → Except Fault α) (method : Method)
    (path operation : String) (json : Option Json) (token : Option String) :
    (ask read method path operation json token remote).1 =
      Backend.readAnswer read (.obj data) operation := by
  rw [ask_reply next, receive_brings operation brings]
  rfl

/-- A call takes its reply and leaves the later ones. -/
theorem ask_replies (next : remote.replies = reply :: later) (read : Json → Except Fault α)
    (method : Method) (path operation : String) (json : Option Json) (token : Option String) :
    (ask read method path operation json token remote).2.replies = later := by
  simp only [ask, send, next]

/-- A call takes the next reply, if there is one. -/
theorem ask_tail (read : Json → Except Fault α) (method : Method) (path operation : String)
    (json : Option Json) (token : Option String) :
    (ask read method path operation json token remote).2.replies = remote.replies.tail := by
  cases next : remote.replies with
  | nil =>
      simp only [ask, send, next]
      rfl
  | cons reply later => exact ask_replies next ..

/-- A call escapes exactly if its reply is nested too deep or overflows its record. -/
theorem ask_typedUnless (next : remote.replies = reply :: later) (exchange : reply.IsExchange)
    {read : Json → Except Fault α} {meets : Table Json → Prop}
    (reads : ∀ data, OverflowsIff (read (.obj data)) (meets data)) (method : Method)
    (path operation : String) (json : Option Json) (token : Option String) :
    TypedUnless (reply.Escapes meets) (ask read method path operation json token remote).1 := by
  rw [ask_reply next]
  by_cases deep : reply.IsTooDeep
  · rw [receive_tooDeep operation deep]
    constructor
    · intro fault escapes
      cases escapes with
      | deep nested => rfl
      | infinite data brings met => exact absurd deep brings.not_tooDeep
    · exact fun fine => absurd (.deep deep) (fine _)
  by_cases brings : ∃ data, reply.Brings data
  · obtain ⟨data, brought⟩ := brings
    have received := receive_brings operation brought
    have sole : ∀ other, reply.Brings other → other = data := by
      intro other also
      have again := receive_brings operation also
      rw [received] at again
      exact (Except.ok.inj again).symm
    rw [received]
    apply (Backend.readAnswer_typedUnless (reads data) operation).of_iff
    intro fault
    constructor
    · rintro ⟨met, rfl⟩
      exact .infinite data brought met
    · intro escapes
      cases escapes with
      | deep nested => exact absurd nested deep
      | infinite other also met => exact ⟨sole other also ▸ met, rfl⟩
  · obtain ⟨failure, refused, typed⟩ := receive_refuses (α := α) operation exchange deep brings
    rw [refused]
    constructor
    · intro fault escapes
      cases escapes with
      | deep nested => exact absurd nested deep
      | infinite data brought met => exact absurd ⟨data, brought⟩ brings
    · exact fun _ => typed

/-- The expiry of a token that was received can be converted. -/
theorem isConvertible_of_verifySignature {wallet signature : String} {token : VerifiedToken}
    (answered : (verifySignature wallet signature remote).1 = .ok token) :
    Text.isConvertible token.expiresAt = true := by
  cases next : remote.replies with
  | nil =>
      simp only [verifySignature, ask, send, next] at answered
      cases answered
  | cons reply later =>
      rw [verifySignature, ask_reply next] at answered
      obtain ⟨data, received, read⟩ := bind_eq_ok.mp answered
      unfold Backend.readAnswer at read
      split at read
      · rename_i found payload
        obtain rfl := Except.ok.inj read
        simp only [VerifiedToken.ofPayload, Json.fields, bind_eq_ok] at payload
        obtain ⟨_, ⟨⟩, expiry, whole, same⟩ := payload
        rw [← Except.ok.inj same]
        exact isConvertible_of_brings (receive_eq_ok.mp received) whole
      · split at read
        · cases read
        · cases read

theorem fetchProofJobs_typedUnless (next : remote.replies = reply :: later)
    (exchange : reply.IsExchange) (run : String) (token : Option String) :
    TypedUnless (reply.Escapes ProofJobsByRun.MeetsInfinity) (fetchProofJobs run token remote).1 := by
  apply ask_typedUnless next exchange
  intro data
  apply (ProofJobsByRun.overflowsIff _).of_iff
  simp

/-- Each call returns its record or a typed error, unless its reply lets a fault escape. -/
theorem calls_typed_unless_infinite_or_deep (next : remote.replies = reply :: later)
    (exchange : reply.IsExchange) :
    (∀ wallet, TypedUnless (reply.Escapes fun data => Json.InfiniteAt data "expires_at")
      (requestNonce wallet remote).1) ∧
    (∀ wallet signature, TypedUnless (reply.Escapes fun data => Json.InfiniteAt data "expires_at")
      (verifySignature wallet signature remote).1) ∧
    (∀ token, TypedUnless (reply.Escapes fun _ => False) (fetchMe token remote).1) ∧
    (∀ token left right proofType, TypedUnless (reply.Escapes fun _ => False)
      (startOrchestration token left right proofType remote).1) ∧
    ∀ run token, TypedUnless (reply.Escapes ProofJobsByRun.MeetsInfinity)
      (fetchProofJobs run token remote).1 := by
  refine ⟨?nonce, ?verify, ?me, ?trade, ?jobs⟩
  case nonce =>
    intro wallet
    apply ask_typedUnless next exchange
    intro data
    apply (NonceChallenge.overflowsIff _).of_iff
    simp
  case verify =>
    intro wallet signature
    apply ask_typedUnless next exchange
    intro data
    apply (VerifiedToken.overflowsIff _).of_iff
    simp
  case me =>
    intro token
    exact ask_typedUnless next exchange (fun _ => WalletIdentity.overflowsNever _) _ _ _ _ _
  case trade =>
    intro token left right proofType
    exact ask_typedUnless next exchange (fun _ => OrchestrationResult.overflowsNever _) _ _ _ _ _
  case jobs =>
    exact fun run token => fetchProofJobs_typedUnless next exchange run token

/-- A backend whose next answer is a success that expires at an infinite number. -/
def neverExpiring : Remote where
  baseUrl := "http://desk"
  timeout := .ofInt 15
  replies := [.response 200 (Utf8.encode "\x7b\"expires_at\": Infinity\x7d")]

/-- The infinite number escapes from the request for a message to sign. -/
theorem neverExpiring_nonce_escapes :
    (requestNonce "0xab" neverExpiring).1 = .error (.fault .overflow) ∧
      isTyped (fetchMe "token" neverExpiring).1 = true := by
  have read : Json.readBody? (Utf8.encode "\x7b\"expires_at\": Infinity\x7d") =
      some (.obj [("expires_at", .float (.infinite false))]) := by decide +kernel
  have next : neverExpiring.replies =
      [.response 200 (Utf8.encode "\x7b\"expires_at\": Infinity\x7d")] := rfl
  obtain ⟨nonce, -, me, -⟩ := calls_typed_unless_infinite_or_deep next trivial
  have brings : (Reply.response 200 (Utf8.encode "\x7b\"expires_at\": Infinity\x7d")).Brings
      [("expires_at", .float (.infinite false))] := ⟨200, _, rfl, rfl, read⟩
  refine ⟨(nonce "0xab").escapes _ (.infinite _ brings ⟨false, rfl⟩), (me "token").typed ?_⟩
  intro fault escapes
  cases escapes with
  | deep nested => exact brings.not_tooDeep nested
  | infinite data brings met => exact met

/-- A verified signature whose token never expires ends in no error of the desk. -/
theorem neverExpiring_token_untyped :
    isTyped (verifySignature "0xab" "signature" neverExpiring).1 = false := by decide +kernel

end Remote

end OtcDesk
