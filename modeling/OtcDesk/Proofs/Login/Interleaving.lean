import OtcDesk.Proofs.Login.Verification

namespace OtcDesk

/-- Where a verification or a restoration stands: what it waits for, or how it has ended. -/
inductive CallStage where
  /-- A message to sign was asked for. -/
  | challenging (owner : String) (answer : Except Failure NonceChallenge)
  /-- The wallet was shown the message. -/
  | signing (owner message : String)
  /-- A token was asked for. -/
  | exchanging (owner : String) (answer : Except Failure VerifiedToken)
  /-- The owner of a stored session was asked for. -/
  | identifying (session : WalletSession) (answer : Except Failure WalletIdentity)
  | ended (result : Except Failure (Option LoginResult))

namespace CallStage

variable {σ : Type} (backend : Backend σ)

/-- A verification goes as far as its first request. -/
def beginVerify (address : Option String) (login : Login) (state : σ) : CallStage × Login × σ :=
  match Login.beginVerify address login with
  | (.error failure, login) => (.ended (.error failure), login, state)
  | (.ok owner, login) =>
    let (answer, state) := backend.requestNonce owner state
    (.challenging owner answer, login, state)

/-- A restoration goes as far as its request, if it makes one. -/
def beginRestore (clock : Clock) (login : Login) (state : σ) : CallStage × Login × σ :=
  match Login.beginRestore clock login with
  | (.error failure, login) => (.ended (.error failure), login, state)
  | (.ok none, login) => (.ended (.ok none), login, state)
  | (.ok (some session), login) =>
    let (answer, state) := backend.fetchMe session.accessToken state
    (.identifying session answer, login, state)

/-- A call takes the answer that it waits for and goes as far as its next request, or to its end. -/
def goOn (stage : CallStage) (wallet : String → Except Failure Json) (login : Login) (state : σ) :
    CallStage × Login × σ :=
  match stage with
  | .challenging owner answer =>
    match Login.takeChallenge answer login with
    | (.error failure, login) => (.ended (.error failure), login, state)
    | (.ok message, login) => (.signing owner message, login, state)
  | .signing owner message =>
    match Login.takeSignature (wallet message) login with
    | (.error failure, login) => (.ended (.error failure), login, state)
    | (.ok signature, login) =>
      let (answer, state) := backend.verifySignature owner signature state
      (.exchanging owner answer, login, state)
  | .exchanging owner answer =>
    let (result, login) := Login.takeToken owner answer login
    (.ended (result.map some), login, state)
  | .identifying session answer =>
    let (result, login) := Login.takeIdentity session answer login
    (.ended (result.map some), login, state)
  | .ended result => (.ended result, login, state)

end CallStage

/-- A call on a login begins, one goes on, or a logout or a change of the wallet is made at once. -/
inductive LoginEvent where
  | verify (address : Option String)
  | restore (clock : Clock)
  | goOn (number : Nat) (wallet : String → Except Failure Json)
  | logout
  | walletChanged (address : Option String)

/-- A login, the state of its backend, and the calls that were ever begun. -/
structure LoginTraffic (σ : Type) where
  login : Login
  state : σ
  calls : List CallStage := []

namespace LoginTraffic

variable {σ : Type} (backend : Backend σ)

/-- The traffic after an event. -/
def step (traffic : LoginTraffic σ) : LoginEvent → LoginTraffic σ
  | .verify address =>
    let (stage, login, state) := CallStage.beginVerify backend address traffic.login traffic.state
    { login, state, calls := traffic.calls ++ [stage] }
  | .restore clock =>
    let (stage, login, state) := CallStage.beginRestore backend clock traffic.login traffic.state
    { login, state, calls := traffic.calls ++ [stage] }
  | .goOn number wallet =>
    match traffic.calls[number]? with
    | none => traffic
    | some stage =>
      let (stage, login, state) := stage.goOn backend wallet traffic.login traffic.state
      { login, state, calls := traffic.calls.set number stage }
  | .logout => { traffic with login := (Login.logout traffic.login).2 }
  | .walletChanged address =>
    { traffic with login := (Login.walletChanged address traffic.login).2 }

/-- The traffic after some events, one after another. -/
def after (traffic : LoginTraffic σ) (events : List LoginEvent) : LoginTraffic σ :=
  events.foldl (step backend) traffic

/-- The call begun last goes on. -/
theorem step_goOn_last (login : Login) (state : σ) (earlier : List CallStage) (stage : CallStage)
    (wallet : String → Except Failure Json) :
    step backend { login, state, calls := earlier ++ [stage] } (.goOn earlier.length wallet) =
      { login := (stage.goOn backend wallet login state).2.1
        state := (stage.goOn backend wallet login state).2.2
        calls := earlier ++ [(stage.goOn backend wallet login state).1] } := by
  simp [step]

/-- A verification that nothing comes in between is the one made in one go. -/
theorem after_verify {ρ : Type} (traffic : LoginTraffic σ) (signer : Signer ρ)
    (address : Option String) (wallet : ρ) :
    let goesOn := LoginEvent.goOn traffic.calls.length fun message => (signer message wallet).1
    let ended := Login.verify backend signer address (traffic.login, traffic.state, wallet)
    traffic.after backend [.verify address, goesOn, goesOn, goesOn] =
      { login := ended.2.1, state := ended.2.2.1,
        calls := traffic.calls ++ [.ended (ended.1.map some)] } := by
  intro goesOn ended
  have begun : traffic.step backend (.verify address) =
      { login := (CallStage.beginVerify backend address traffic.login traffic.state).2.1
        state := (CallStage.beginVerify backend address traffic.login traffic.state).2.2
        calls := traffic.calls ++
          [(CallStage.beginVerify backend address traffic.login traffic.state).1] } := rfl
  simp only [after, List.foldl_cons, List.foldl_nil, begun, goesOn, step_goOn_last]
  cases begins : Login.beginVerify address traffic.login with
  | mk result login =>
  cases result with
  | error failure =>
      simp only [ended, Login.verify, CallStage.beginVerify, begins, CallStage.goOn, Except.map]
  | ok owner =>
      cases challenged : Login.takeChallenge (backend.requestNonce owner traffic.state).1 login with
      | mk result login =>
      cases result with
      | error failure =>
          simp only [ended, Login.verify, CallStage.beginVerify, begins, CallStage.goOn, challenged,
            Except.map]
      | ok message =>
          cases signed : Login.takeSignature (signer message wallet).1 login with
          | mk result login =>
          cases result with
          | error failure =>
              simp only [ended, Login.verify, CallStage.beginVerify, begins,
                CallStage.goOn, challenged, signed, Except.map]
          | ok signature =>
              simp only [ended, Login.verify, CallStage.beginVerify, begins,
                CallStage.goOn, challenged, signed]

/-- A restoration that nothing comes in between is the one made in one go. -/
theorem after_restore (traffic : LoginTraffic σ) (clock : Clock)
    (wallet : String → Except Failure Json) :
    let ended := Login.restore backend clock (traffic.login, traffic.state)
    traffic.after backend [.restore clock, .goOn traffic.calls.length wallet] =
      { login := ended.2.1, state := ended.2.2, calls := traffic.calls ++ [.ended ended.1] } := by
  intro ended
  have begun : traffic.step backend (.restore clock) =
      { login := (CallStage.beginRestore backend clock traffic.login traffic.state).2.1
        state := (CallStage.beginRestore backend clock traffic.login traffic.state).2.2
        calls := traffic.calls ++
          [(CallStage.beginRestore backend clock traffic.login traffic.state).1] } := rfl
  simp only [after, List.foldl_cons, List.foldl_nil, begun, step_goOn_last]
  cases begins : Login.beginRestore clock traffic.login with
  | mk result login =>
  cases result with
  | error failure => simp only [ended, Login.restore, CallStage.beginRestore, begins, CallStage.goOn]
  | ok stored =>
      cases stored with
      | none => simp only [ended, Login.restore, CallStage.beginRestore, begins, CallStage.goOn]
      | some session =>
          simp only [ended, Login.restore, CallStage.beginRestore, begins, CallStage.goOn]

end LoginTraffic

end OtcDesk
