import OtcDesk.Backend.Basic
import OtcDesk.Clock
import OtcDesk.Session.Store
import OtcDesk.Wallet

namespace OtcDesk

/-- Where a login stands. -/
inductive LoginPhase where
  | anonymous
  | verifying
  | authenticated
  | error
  deriving DecidableEq, Repr

/-- The name of a phase. -/
def LoginPhase.name : LoginPhase → String
  | .anonymous => "anonymous"
  | .verifying => "verifying"
  | .authenticated => "authenticated"
  | .error => "error"

/-- A wallet that keeps a state is shown a message, and answers with a value or fails to. -/
abbrev Signer (ρ : Type) := String → Attempt ρ Json

/-- The login of a desk: its phase, its last error, its store, and the remarks made so far. -/
structure Login where
  phase : LoginPhase := .anonymous
  error : Option String := none
  store : SessionStore
  remarks : List Warning := []
  deriving DecidableEq, Repr

namespace Login

/-- The stored session. -/
def load : Attempt Login (Option WalletSession) := fun login =>
  let loaded := login.store.load
  (loaded.value.mapError .fault, { login with remarks := login.remarks ++ loaded.remarks })

/-- The store as it was written, unless that failed. -/
def write (written : SessionStore → Noted (Except Fault SessionStore)) : Attempt Login Unit :=
  fun login =>
    let outcome := written login.store
    let login := { login with remarks := login.remarks ++ outcome.remarks }
    match outcome.value with
    | .ok store => (.ok (), { login with store })
    | .error fault => (.error (.fault fault), login)

/-- The stored session is dropped. -/
def forget : Attempt Login Unit := write (·.clear)

/-- A session is stored. -/
def keep (session : WalletSession) : Attempt Login Unit := write (·.save session)

/-- The login stands in another phase. -/
def enter (phase : LoginPhase) (error : Option String) (login : Login) : Login :=
  { login with phase, error }

/-- The login fails with an error of the desk. -/
def fail {α : Type} (error : DeskError) : Attempt Login α := fun login =>
  (.error (.desk error), login.enter .error (some error.message))

/-- A result settles the login if it is an error of the desk. -/
def settle {α : Type} (result : Except Failure α) : Attempt Login α := fun login =>
  match result with
  | .ok value => (.ok value, login)
  | .error (.desk error) => fail error login
  | .error failure => (.error failure, login)

/-- A session is stored, and the login stands on it. -/
def authenticate (session : WalletSession) : Attempt Login LoginResult :=
  (keep session).andThen fun _ login => (.ok session.login, login.enter .authenticated none)

/-- A verification starts: the stored session is dropped, and the address is read. -/
def beginVerify (address : Option String) : Attempt Login String :=
  forget.andThen fun _ login =>
    settle ((Wallet.normalize address).mapError .desk) (login.enter .verifying none)

/-- The message of a challenge, unless it is refused. -/
def challengeMessage (challenge : NonceChallenge) : Except Failure String :=
  if challenge.accepted then .ok challenge.message
  else
    .error <| .desk <| .rejection (.ofText? challenge.errorCode)
      (Text.orElse challenge.reason "failed to request wallet nonce") none

/-- The challenge has arrived. -/
def takeChallenge (answer : Except Failure NonceChallenge) : Attempt Login String :=
  settle (answer.bind challengeMessage)

/-- The signature in the answer of a wallet, which has declined if it fails or answers nothing. -/
def signatureText : Except Failure Json → Except Failure String
  | .ok value =>
    if value.isGiven then .ok value.text
    else .error (.desk (.signatureDeclined DeskError.declinedReason))
  | .error (.fault fault) =>
    .error (.desk (.signatureDeclined (DeskError.declinedReason ++ ": " ++ fault.text)))
  | .error failure => .error failure

/-- The wallet has answered. -/
def takeSignature (answer : Except Failure Json) : Attempt Login String :=
  settle (signatureText answer)

/-- The session that a token opens, unless it is refused, empty, or of no known role. -/
def tokenSession (wallet : String) (token : VerifiedToken) : Except Failure WalletSession :=
  if !token.accepted then
    .error <| .desk <| .rejection (.ofText? token.errorCode)
      (Text.orElse token.reason "wallet verification failed") none
  else if token.accessToken.isEmpty then
    .error (.desk (.refused "INVALID_TOKEN" "wallet verification returned no access token"))
  else
    match Role.recognize? (some token.role) with
    | none =>
      .error (.desk (.refused "UNSUPPORTED_ROLE" ("unsupported role from backend: " ++ token.role)))
    | some role =>
      .ok ⟨token.accessToken, Text.orElse token.walletAddress wallet, role, token.expiresAt⟩

/-- The token has arrived. -/
def takeToken (wallet : String) (answer : Except Failure VerifiedToken) :
    Attempt Login LoginResult :=
  (settle (answer.bind (tokenSession wallet))).andThen authenticate

/-- A verification from its start to its end. -/
def verify {σ ρ : Type} (backend : Backend σ) (signer : Signer ρ) (address : Option String) :
    Attempt (Login × σ × ρ) LoginResult := fun (login, state, wallet) =>
  match beginVerify address login with
  | (.error failure, login) => (.error failure, login, state, wallet)
  | (.ok owner, login) =>
    let (answer, state) := backend.requestNonce owner state
    match takeChallenge answer login with
    | (.error failure, login) => (.error failure, login, state, wallet)
    | (.ok message, login) =>
      let (answer, wallet) := signer message wallet
      match takeSignature answer login with
      | (.error failure, login) => (.error failure, login, state, wallet)
      | (.ok signature, login) =>
        let (answer, state) := backend.verifySignature owner signature state
        let (result, login) := takeToken owner answer login
        (result, login, state, wallet)

/-- A restoration goes on with the stored session, or drops one that is over. -/
def beginRestore (clock : Clock) : Attempt Login (Option WalletSession) :=
  load.andThen fun stored login =>
    match stored with
    | none => (.ok none, { login with phase := .anonymous })
    | some session =>
      match isExpired session.expiresAt clock with
      | .error fault => (.error (.fault fault), login)
      | .ok false => (.ok (some session), login)
      | .ok true =>
        forget.andThen (fun _ login => (.ok none, { login with phase := .anonymous })) login

/-- The stored session is dropped, and the login fails. -/
def drop {α : Type} (message : String) : Attempt Login α :=
  forget.andThen fun _ => fail (.session message)

/-- A rejection says that the token is not known. -/
def isUnauthorized (error : DeskError) : Bool :=
  error.rejectedStatus? == some 401 || error.rejectedStatus? == some 403

/-- The owner of the stored session has arrived. -/
def takeIdentity (session : WalletSession) (answer : Except Failure WalletIdentity) :
    Attempt Login LoginResult :=
  match answer with
  | .error (.desk error) => if isUnauthorized error then drop error.message else fail error
  | .error failure => fun login => (.error failure, login)
  | .ok identity =>
    if !identity.authenticated then
      drop (Text.orElse identity.reason "wallet session is not authenticated")
    else
      match Role.recognize? (some identity.role) with
      | none => drop ("unsupported role from backend: " ++ identity.role)
      | some role =>
        authenticate
          { session with
            walletAddress := Text.orElse identity.walletAddress session.walletAddress, role }

/-- A restoration from its start to its end. -/
def restore {σ : Type} (backend : Backend σ) (clock : Clock) :
    Attempt (Login × σ) (Option LoginResult) := fun (login, state) =>
  match beginRestore clock login with
  | (.error failure, login) => (.error failure, login, state)
  | (.ok none, login) => (.ok none, login, state)
  | (.ok (some session), login) =>
    let (answer, state) := backend.fetchMe session.accessToken state
    let (result, login) := takeIdentity session answer login
    (result.map some, login, state)

/-- The session of a login that stands on one. -/
def session : Attempt Login (Option WalletSession) := fun login =>
  if login.phase = .authenticated then load login else (.ok none, login)

/-- The session is dropped, and nothing is left of it. -/
def logout : Attempt Login Unit :=
  forget.andThen fun _ login => (.ok (), login.enter .anonymous none)

/-- A connected wallet is the one of a session, whatever its case and the blanks around it. -/
def isWalletOf (session : WalletSession) (address : Option String) : Bool :=
  (Text.given? address).any fun address =>
    Text.lower (Text.strip address) == Text.lower session.walletAddress

/-- The login ends unless the connected wallet is that of its session. -/
def walletChanged (address : Option String) : Attempt Login Bool :=
  session.andThen fun current login =>
    match current with
    | none => (.ok false, login)
    | some session =>
      if isWalletOf session address then (.ok false, login)
      else logout.andThen (fun _ login => (.ok true, login)) login

end Login

end OtcDesk
