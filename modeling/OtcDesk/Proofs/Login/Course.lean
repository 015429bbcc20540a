import OtcDesk.Proofs.Backend.Remote
import OtcDesk.Proofs.Login.Verification

namespace OtcDesk.Login

variable {σ ρ : Type} {login : Login}

/-- What a failure leaves of a login: an error of the desk is noted, and any other changes nothing. -/
def failed (login : Login) : Failure → Login
  | .desk error => login.enter .error (some error.message)
  | .fault _ | .interrupted => login

@[simp] theorem settle_error {α : Type} (failure : Failure) :
    settle (.error failure : Except Failure α) login = (.error failure, login.failed failure) := by
  cases failure <;> rfl

@[simp] theorem failed_store (failure : Failure) : (login.failed failure).store = login.store := by
  cases failure <;> rfl

/-- A login whose session was dropped. -/
def emptied (login : Login) (store : SessionStore) : Login :=
  { login with store, remarks := login.remarks ++ login.store.clear.remarks }

/-- A login that stands on a session which was stored. -/
def opened (login : Login) (session : WalletSession) (store : SessionStore) : Login where
  phase := .authenticated
  store := store
  remarks := login.remarks ++ (login.store.save session).remarks

theorem authenticate_of_save {session : WalletSession} {written : SessionStore}
    (saved : (login.store.save session).value = .ok written) :
    authenticate session login = (.ok session.login, login.opened session written) := by
  rw [authenticate, keep, Attempt.andThen_ok (write_of_ok saved)]
  rfl

theorem forget_of_clear {store : SessionStore} (cleared : login.store.clear.value = .ok store) :
    forget login = (.ok (), login.emptied store) := write_of_ok cleared

/-- A verification ends with the address, the challenge, the wallet, the token or its session. -/
inductive VerificationEnds (backend : Backend σ) (signer : Signer ρ) (address : Option String)
    (state : σ) (wallet : ρ) (login : Login) :
    Except Failure LoginResult × Login × σ × ρ → Prop where
  | misnamed {refusal : DeskError} (named : Wallet.normalize address = .error refusal) :
      VerificationEnds backend signer address state wallet login
        (.error (.desk refusal), login.failed (.desk refusal), state, wallet)
  | unchallenged {owner : String} {failure : Failure}
      (named : Wallet.normalize address = .ok owner)
      (answered : (backend.requestNonce owner state).1.bind challengeMessage = .error failure) :
      VerificationEnds backend signer address state wallet login
        (.error failure, login.failed failure, (backend.requestNonce owner state).2, wallet)
  | unsigned {owner message : String} {failure : Failure}
      (named : Wallet.normalize address = .ok owner)
      (challenged : (backend.requestNonce owner state).1.bind challengeMessage = .ok message)
      (answered : signatureText (signer message wallet).1 = .error failure) :
      VerificationEnds backend signer address state wallet login
        (.error failure, login.failed failure, (backend.requestNonce owner state).2,
          (signer message wallet).2)
  | refused {owner message signature : String} {failure : Failure}
      (signed : Signed backend signer address state wallet owner message signature)
      (answered : (backend.verifySignature owner signature
        (backend.requestNonce owner state).2).1.bind (tokenSession owner) = .error failure) :
      VerificationEnds backend signer address state wallet login
        (.error failure, login.failed failure,
          (backend.verifySignature owner signature (backend.requestNonce owner state).2).2,
          (signer message wallet).2)
  | opened {owner message signature : String} {session : WalletSession} {written : SessionStore}
      (signed : Signed backend signer address state wallet owner message signature)
      (answered : (backend.verifySignature owner signature
        (backend.requestNonce owner state).2).1.bind (tokenSession owner) = .ok session)
      (saved : (login.store.save session).value = .ok written) :
      VerificationEnds backend signer address state wallet login
        (.ok session.login, login.opened session written,
          (backend.verifySignature owner signature (backend.requestNonce owner state).2).2,
          (signer message wallet).2)
  | unkept {owner message signature : String} {session : WalletSession}
      (signed : Signed backend signer address state wallet owner message signature)
      (answered : (backend.verifySignature owner signature
        (backend.requestNonce owner state).2).1.bind (tokenSession owner) = .ok session)
      (refuses : ¬ login.store.Takes session) :
      VerificationEnds backend signer address state wallet login
        (.error (.fault SessionRecord.unwritable),
          login.failed (.fault SessionRecord.unwritable),
          (backend.verifySignature owner signature (backend.requestNonce owner state).2).2,
          (signer message wallet).2)

section Verification

/-- A verification that has failed once its store was emptied. -/
theorem failed_failsOn (login : Login) (emptied : SessionStore) (failure : Failure) :
    FailsOn emptied (.error failure) ((login.verifying emptied).failed failure) where
  failed := ⟨failure, rfl⟩
  store := failed_store failure
  phase := by cases failure <;> simp [failed, enter, verifying]

variable {emptied : SessionStore} {backend : Backend σ} {signer : Signer ρ}
  {address : Option String} {state : σ} {wallet : ρ} {owner message signature : String}

/-- An address that is none ends a verification before anyone is asked. -/
theorem verify_of_misnamed {refusal : DeskError} (cleared : login.store.clear.value = .ok emptied)
    (named : Wallet.normalize address = .error refusal) :
    verify backend signer address (login, state, wallet) =
      (.error (.desk refusal), (login.verifying emptied).failed (.desk refusal), state, wallet) := by
  have begins := beginVerify_of_clear cleared address
  rw [named, Except.mapError, settle_error] at begins
  simp only [verify, begins]

/-- An answer that has no message to sign ends a verification. -/
theorem verify_of_unchallenged {failure : Failure}
    (cleared : login.store.clear.value = .ok emptied)
    (named : Wallet.normalize address = .ok owner)
    (answered : (backend.requestNonce owner state).1.bind challengeMessage = .error failure) :
    verify backend signer address (login, state, wallet) =
      (.error failure, (login.verifying emptied).failed failure,
        (backend.requestNonce owner state).2, wallet) := by
  have begins := beginVerify_of_clear cleared address
  rw [named, Except.mapError, settle_ok] at begins
  simp only [verify, begins, takeChallenge, answered, settle_error]

/-- A wallet that does not sign ends a verification. -/
theorem verify_of_unsigned {failure : Failure} (cleared : login.store.clear.value = .ok emptied)
    (named : Wallet.normalize address = .ok owner)
    (challenged : (backend.requestNonce owner state).1.bind challengeMessage = .ok message)
    (answered : signatureText (signer message wallet).1 = .error failure) :
    verify backend signer address (login, state, wallet) =
      (.error failure, (login.verifying emptied).failed failure,
        (backend.requestNonce owner state).2, (signer message wallet).2) := by
  have begins := beginVerify_of_clear cleared address
  rw [named, Except.mapError, settle_ok] at begins
  simp only [verify, begins, takeChallenge, challenged, settle_ok, takeSignature, answered,
    settle_error]

/-- An answer about the token that opens no session ends a verification. -/
theorem verify_of_refused {failure : Failure} (cleared : login.store.clear.value = .ok emptied)
    (signed : Signed backend signer address state wallet owner message signature)
    (answered : (backend.verifySignature owner signature
      (backend.requestNonce owner state).2).1.bind (tokenSession owner) = .error failure) :
    verify backend signer address (login, state, wallet) =
      (.error failure, (login.verifying emptied).failed failure,
        (backend.verifySignature owner signature (backend.requestNonce owner state).2).2,
        (signer message wallet).2) := by
  rw [verify_of_signed cleared signed, takeToken, answered,
    Attempt.andThen_error (settle_error failure)]

/-- An answer about the token that opens a session authenticates the login on it. -/
theorem verify_of_opened {session : WalletSession} {written : SessionStore}
    (cleared : login.store.clear.value = .ok emptied)
    (signed : Signed backend signer address state wallet owner message signature)
    (answered : (backend.verifySignature owner signature
      (backend.requestNonce owner state).2).1.bind (tokenSession owner) = .ok session)
    (saved : (emptied.save session).value = .ok written) :
    verify backend signer address (login, state, wallet) =
      (.ok session.login, (login.verifying emptied).opened session written,
        (backend.verifySignature owner signature (backend.requestNonce owner state).2).2,
        (signer message wallet).2) := by
  have kept : (login.verifying emptied).store.save session = emptied.save session := rfl
  rw [← kept] at saved
  rw [verify_of_signed cleared signed, takeToken, answered,
    Attempt.andThen_ok (settle_ok session), authenticate_of_save saved]

/-- A session that the store does not take ends a verification. -/
theorem verify_of_unkept {session : WalletSession}
    (cleared : login.store.clear.value = .ok emptied)
    (signed : Signed backend signer address state wallet owner message signature)
    (answered : (backend.verifySignature owner signature
      (backend.requestNonce owner state).2).1.bind (tokenSession owner) = .ok session)
    (refuses : ¬ emptied.Takes session) :
    verify backend signer address (login, state, wallet) =
      (.error (.fault SessionRecord.unwritable),
        (login.verifying emptied).failed (.fault SessionRecord.unwritable),
        (backend.verifySignature owner signature (backend.requestNonce owner state).2).2,
        (signer message wallet).2) := by
  have refused : ¬ (login.verifying emptied).store.Takes session := refuses
  rw [verify_of_signed cleared signed, takeToken, answered,
    Attempt.andThen_ok (settle_ok session), authenticate_of_not_takes refused]
  rfl

/-- Every verification that can empty its store ends in one of these ways. -/
theorem verify_ends (cleared : login.store.clear.value = .ok emptied) (backend : Backend σ)
    (signer : Signer ρ) (address : Option String) (state : σ) (wallet : ρ) :
    VerificationEnds backend signer address state wallet (login.verifying emptied)
      (verify backend signer address (login, state, wallet)) := by
  cases named : Wallet.normalize address with
  | error refusal =>
      rw [verify_of_misnamed cleared named]
      exact .misnamed named
  | ok owner =>
      cases challenged : (backend.requestNonce owner state).1.bind challengeMessage with
      | error failure =>
          rw [verify_of_unchallenged cleared named challenged]
          exact .unchallenged named challenged
      | ok message =>
          cases signs : signatureText (signer message wallet).1 with
          | error failure =>
              rw [verify_of_unsigned cleared named challenged signs]
              exact .unsigned named challenged signs
          | ok signature =>
              have signed : Signed backend signer address state wallet owner message signature :=
                ⟨named, challenged, signs⟩
              cases answered : (backend.verifySignature owner signature
                  (backend.requestNonce owner state).2).1.bind (tokenSession owner) with
              | error failure =>
                  rw [verify_of_refused cleared signed answered]
                  exact .refused signed answered
              | ok session =>
                  by_cases takes : emptied.Takes session
                  · obtain ⟨written, saved, _⟩ :=
                      (SessionStore.isEmpty_of_clear cleared).save takes
                    rw [verify_of_opened cleared signed answered saved]
                    exact .opened signed answered saved
                  · rw [verify_of_unkept cleared signed answered takes]
                    exact .unkept signed answered takes

/-- A session that the remote backend grants can be written. -/
theorem remote_session_isWritable {remote : Remote} {session : WalletSession}
    (answered : (Remote.backend.verifySignature owner signature remote).1.bind
      (tokenSession owner) = .ok session) : session.record.IsWritable := by
  obtain ⟨token, told, opens⟩ := bind_eq_ok.mp answered
  obtain ⟨_, _, _, _, _, expiry⟩ := tokenSession_eq_ok.mp opens
  change Text.isConvertible session.expiresAt = true
  rw [expiry]
  exact Remote.isConvertible_of_verifySignature told

end Verification

/-- A login whose store was read. -/
def seen (login : Login) : Login :=
  { login with remarks := login.remarks ++ login.store.load.remarks }

theorem load_eq : load login = (login.store.load.value.mapError .fault, login.seen) := rfl

/-- An answer about the owner of a session takes the session away, with a message. -/
inductive Revokes : Except Failure WalletIdentity → String → Prop where
  | unauthorized {error : DeskError} (rejected : isUnauthorized error = true) :
      Revokes (.error (.desk error)) error.message
  | unauthenticated {identity : WalletIdentity} (unknown : identity.authenticated = false) :
      Revokes (.ok identity)
        (Text.orElse identity.reason "wallet session is not authenticated")
  | unrecognized {identity : WalletIdentity} (known : identity.authenticated = true)
      (role : Role.recognize? (some identity.role) = none) :
      Revokes (.ok identity) ("unsupported role from backend: " ++ identity.role)

/-- An answer about the owner confirms a session, with its own wallet and role. -/
structure Confirms (session : WalletSession) (answer : Except Failure WalletIdentity)
    (confirmed : WalletSession) : Prop where
  answered : ∃ identity, answer = .ok identity ∧ identity.authenticated = true ∧
    Role.recognize? (some identity.role) = some confirmed.role ∧
    confirmed.walletAddress = Text.orElse identity.walletAddress session.walletAddress
  token : confirmed.accessToken = session.accessToken
  expiry : confirmed.expiresAt = session.expiresAt

/-- A restoration ends at the store, at the clock, or at the answer about the owner. -/
inductive RestorationEnds (backend : Backend σ) (clock : Clock) (state : σ) (login : Login) :
    Except Failure (Option LoginResult) × Login × σ → Prop where
  | unreadable {fault : Fault} (loaded : login.store.load.value = .error fault) :
      RestorationEnds backend clock state login (.error (.fault fault), login.seen, state)
  | absent (loaded : login.store.load.value = .ok none) :
      RestorationEnds backend clock state login
        (.ok none, { login.seen with phase := .anonymous }, state)
  | untimed {session : WalletSession} {fault : Fault}
      (loaded : login.store.load.value = .ok (some session))
      (read : isExpired session.expiresAt clock = .error fault) :
      RestorationEnds backend clock state login (.error (.fault fault), login.seen, state)
  | expired {session : WalletSession} {store : SessionStore}
      (loaded : login.store.load.value = .ok (some session))
      (read : isExpired session.expiresAt clock = .ok true)
      (cleared : login.store.clear.value = .ok store) :
      RestorationEnds backend clock state login
        (.ok none, { login.seen.emptied store with phase := .anonymous }, state)
  | unanswered {session : WalletSession} {failure : Failure}
      (loaded : login.store.load.value = .ok (some session))
      (read : isExpired session.expiresAt clock = .ok false)
      (answered : (backend.fetchMe session.accessToken state).1 = .error failure)
      (keeps : ∀ error, failure = .desk error → isUnauthorized error = false) :
      RestorationEnds backend clock state login
        (.error failure, login.seen.failed failure, (backend.fetchMe session.accessToken state).2)
  | revoked {session : WalletSession} {message : String} {store : SessionStore}
      (loaded : login.store.load.value = .ok (some session))
      (read : isExpired session.expiresAt clock = .ok false)
      (revokes : Revokes (backend.fetchMe session.accessToken state).1 message)
      (cleared : login.store.clear.value = .ok store) :
      RestorationEnds backend clock state login
        (.error (.desk (.session message)),
          (login.seen.emptied store).failed (.desk (.session message)),
          (backend.fetchMe session.accessToken state).2)
  | confirmed {session confirmed : WalletSession} {written : SessionStore}
      (loaded : login.store.load.value = .ok (some session))
      (read : isExpired session.expiresAt clock = .ok false)
      (confirms : Confirms session (backend.fetchMe session.accessToken state).1 confirmed)
      (saved : (login.store.save confirmed).value = .ok written) :
      RestorationEnds backend clock state login
        (.ok (some confirmed.login), login.seen.opened confirmed written,
          (backend.fetchMe session.accessToken state).2)

/-- What is confirmed of a session that can be written can be written too. -/
theorem Confirms.isWritable {session confirmed : WalletSession}
    {answer : Except Failure WalletIdentity} (confirms : Confirms session answer confirmed)
    (writable : session.record.IsWritable) : confirmed.record.IsWritable := by
  change Text.isConvertible confirmed.expiresAt = true
  rw [confirms.expiry]
  exact writable

theorem drop_of_clear {α : Type} {store : SessionStore}
    (cleared : login.store.clear.value = .ok store) (message : String) :
    (drop message : Attempt Login α) login =
      (.error (.desk (.session message)),
        (login.emptied store).failed (.desk (.session message))) := by
  rw [drop, Attempt.andThen_ok (forget_of_clear cleared)]
  rfl

/-- A session that was loaded is taken up, unless it is over. -/
theorem beginRestore_of_load {session : WalletSession} {store : SessionStore}
    (loaded : login.store.load.value = .ok (some session))
    (cleared : login.store.clear.value = .ok store) (clock : Clock) :
    beginRestore clock login =
      match isExpired session.expiresAt clock with
      | .error fault => (.error (.fault fault), login.seen)
      | .ok false => (.ok (some session), login.seen)
      | .ok true => (.ok none, { login.seen.emptied store with phase := .anonymous }) := by
  have loading : load login = (.ok (some session), login.seen) := by
    rw [load_eq, loaded]
    rfl
  have forgetting : forget login.seen = (.ok (), login.seen.emptied store) := forget_of_clear cleared
  rw [beginRestore, Attempt.andThen_ok loading]
  dsimp only
  cases isExpired session.expiresAt clock with
  | error fault => rfl
  | ok expired =>
      cases expired with
      | false => rfl
      | true => exact Attempt.andThen_ok forgetting _

/-- What becomes of a login whose question for the owner of its session was answered. -/
inductive IdentityEnds (session : WalletSession) (answer : Except Failure WalletIdentity)
    (login : Login) : Except Failure LoginResult × Login → Prop where
  | unanswered {failure : Failure} (answered : answer = .error failure)
      (keeps : ∀ error, failure = .desk error → isUnauthorized error = false) :
      IdentityEnds session answer login (.error failure, login.failed failure)
  | revoked {message : String} {store : SessionStore} (revokes : Revokes answer message)
      (cleared : login.store.clear.value = .ok store) :
      IdentityEnds session answer login
        (.error (.desk (.session message)),
          (login.emptied store).failed (.desk (.session message)))
  | confirmed {confirmed : WalletSession} {written : SessionStore}
      (confirms : Confirms session answer confirmed)
      (saved : (login.store.save confirmed).value = .ok written) :
      IdentityEnds session answer login (.ok confirmed.login, login.opened confirmed written)

/-- Every answer about the owner of a session has one of these ends. -/
theorem takeIdentity_ends (readable : login.store.IsReadable) {session : WalletSession}
    (writable : session.record.IsWritable) (answer : Except Failure WalletIdentity) :
    IdentityEnds session answer login (takeIdentity session answer login) := by
  obtain ⟨store, cleared, _⟩ := readable.clear
  have drops : ∀ {message : String}, Revokes answer message →
      IdentityEnds session answer login ((drop message : Attempt Login LoginResult) login) := by
    intro message revokes
    rw [drop_of_clear cleared]
    exact .revoked revokes cleared
  cases answer with
  | error failure =>
      cases failure with
      | desk error =>
          cases rejected : isUnauthorized error with
          | true =>
              rw [takeIdentity, if_pos rejected]
              exact drops (.unauthorized rejected)
          | false =>
              rw [takeIdentity, rejected]
              refine .unanswered rfl ?_
              intro other same
              cases same
              exact rejected
      | fault fault => exact .unanswered rfl (by simp)
      | interrupted => exact .unanswered rfl (by simp)
  | ok identity =>
      cases known : identity.authenticated with
      | false =>
          simp only [takeIdentity, known, Bool.not_false, if_true]
          exact drops (.unauthenticated known)
      | true =>
          cases recognized : Role.recognize? (some identity.role) with
          | none =>
              simp only [takeIdentity, known, Bool.not_true, Bool.false_eq_true, if_false, recognized]
              exact drops (.unrecognized known recognized)
          | some role =>
              simp only [takeIdentity, known, Bool.not_true, Bool.false_eq_true, if_false, recognized]
              have confirms : Confirms session (.ok identity) { session with
                  walletAddress := Text.orElse identity.walletAddress session.walletAddress,
                  role } := ⟨⟨identity, rfl, known, recognized, rfl⟩, rfl, rfl⟩
              obtain ⟨written, saved, _⟩ := readable.save (.inr (confirms.isWritable writable))
              rw [authenticate_of_save saved]
              exact .confirmed confirms saved

/-- Every restoration ends in one of these ways. -/
theorem restore_ends (backend : Backend σ) (clock : Clock) (state : σ) :
    RestorationEnds backend clock state login (restore backend clock (login, state)) := by
  cases loaded : login.store.load.value with
  | error fault =>
      have loading : load login = (.error (.fault fault), login.seen) := by
        rw [load_eq, loaded]
        rfl
      rw [restore, beginRestore, Attempt.andThen_error loading]
      exact .unreadable loaded
  | ok stored =>
      have readable := SessionStore.isReadable_of_load loaded
      cases stored with
      | none =>
          have loading : load login = (.ok none, login.seen) := by
            rw [load_eq, loaded]
            rfl
          rw [restore, beginRestore, Attempt.andThen_ok loading]
          exact .absent loaded
      | some session =>
          obtain ⟨store, cleared, _⟩ := readable.clear
          rw [restore, beginRestore_of_load loaded cleared]
          cases read : isExpired session.expiresAt clock with
          | error fault => exact .untimed loaded read
          | ok expired =>
              cases expired with
              | true => exact .expired loaded read cleared
              | false =>
                  dsimp only
                  have seen : login.seen.store.IsReadable := readable
                  have ends := takeIdentity_ends seen (SessionStore.isWritable_of_load loaded)
                    (backend.fetchMe session.accessToken state).1
                  revert ends
                  generalize takeIdentity session (backend.fetchMe session.accessToken state).1
                    login.seen = ended
                  intro ends
                  cases ends with
                  | unanswered answered keeps => exact .unanswered loaded read answered keeps
                  | revoked revokes cleared => exact .revoked loaded read revokes cleared
                  | confirmed confirms saved => exact .confirmed loaded read confirms saved

end OtcDesk.Login
