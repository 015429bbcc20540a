import OtcDesk.Backend.Remote

namespace OtcDesk

/-- What a request is about. -/
inductive Errand where
  | challenge
  | token
  | identity
  | trade
  | jobs (run : String)
  deriving DecidableEq, Repr

/-- The path of an errand. -/
def Errand.path : Errand → String
  | .challenge => "/v1/auth/wallet/nonce"
  | .token => "/v1/auth/wallet/verify"
  | .identity => "/v1/auth/wallet/me"
  | .trade => "/v1/orchestrations/otc"
  | .jobs run => "/v1/proof-jobs/run/" ++ run

/-- An errand is one of a wallet that has no token yet. -/
def Errand.isOpen : Errand → Bool
  | .challenge | .token => true
  | .identity | .trade | .jobs _ => false

/-- The authorization that a request carries. -/
def Request.authorization? (request : Request) : Option String :=
  request.headers.get? "Authorization"

/-- The authorization by a token, if there is one. -/
def bearer? (token : Option String) : Option String :=
  (Text.given? token).map fun token => "Bearer " ++ token

namespace Remote

/-- The request for a path. -/
def request (remote : Remote) (method : Method) (path : String) (json : Option Json)
    (token : Option String) : Request :=
  { method, url := remote.baseUrl ++ path, headers := headers token, json,
    timeout := remote.timeout }

/-- The request for the proof jobs of a run. -/
def jobsRequest (remote : Remote) (run : String) (token : Option String) : Request :=
  remote.request .get (Errand.jobs run).path none token

variable {remote : Remote}

/-- These requests have been made since, and the backend is still at the same address. -/
structure Makes (before after : Remote) (made : List Request) : Prop where
  requests : after.requests = before.requests ++ made
  baseUrl : after.baseUrl = before.baseUrl
  timeout : after.timeout = before.timeout

theorem Makes.refl (remote : Remote) : remote.Makes remote [] :=
  ⟨(List.append_nil _).symm, rfl, rfl⟩

theorem Makes.trans {middle after : Remote} {first second : List Request}
    (earlier : remote.Makes middle first) (later : middle.Makes after second) :
    remote.Makes after (first ++ second) where
  requests := by rw [later.requests, earlier.requests, List.append_assoc]
  baseUrl := later.baseUrl.trans earlier.baseUrl
  timeout := later.timeout.trans earlier.timeout

/-- The same address makes the same requests. -/
theorem Makes.jobsRequest {after : Remote} {made : List Request} (makes : remote.Makes after made)
    (run : String) (token : Option String) :
    after.jobsRequest run token = remote.jobsRequest run token := by
  simp only [Remote.jobsRequest, request, makes.baseUrl, makes.timeout]

/-- A call makes its request. -/
theorem ask_makes {α : Type} (read : Json → Except Fault α) (method : Method)
    (path operation : String) (json : Option Json) (token : Option String) :
    remote.Makes (ask read method path operation json token remote).2
      [remote.request method path json token] := by
  unfold ask send
  dsimp only
  split
  · exact ⟨rfl, rfl, rfl⟩
  · exact ⟨rfl, rfl, rfl⟩

theorem startOrchestration_makes (token : String) (left right : DealerIntent)
    (proofType : String) :
    remote.Makes (startOrchestration token left right proofType remote).2
      [remote.request .post Errand.trade.path (some (tradeBody left right proofType))
        (some token)] :=
  ask_makes ..

theorem fetchProofJobs_makes (run : String) (token : Option String) :
    remote.Makes (fetchProofJobs run token remote).2 [remote.jobsRequest run token] :=
  ask_makes ..

end Remote

end OtcDesk
