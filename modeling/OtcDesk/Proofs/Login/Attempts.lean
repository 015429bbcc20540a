import OtcDesk.Login
import OtcDesk.Proofs.Session.Store

namespace OtcDesk

/-- An attempt that went on with the result of another has succeeded only if both did. -/
theorem Attempt.andThen_eq_ok {σ α β : Type} {first : Attempt σ α} {next : α → Attempt σ β}
    {state after : σ} {value : β} (ends : first.andThen next state = (.ok value, after)) :
    ∃ found middle, first state = (.ok found, middle) ∧
      next found middle = (.ok value, after) := by
  cases begun : first state with
  | mk result middle =>
      cases result with
      | error failure =>
          rw [Attempt.andThen_error begun] at ends
          cases ends
      | ok found =>
          rw [Attempt.andThen_ok begun] at ends
          exact ⟨found, middle, rfl, ends⟩

namespace Login

variable {login : Login} {held : Option WalletSession}

/-- What is written to the store is in the login from then on. -/
theorem write_of_ok {written : SessionStore → Noted (Except Fault SessionStore)}
    {store : SessionStore} (done : (written login.store).value = .ok store) :
    write written login =
      (.ok (), { login with
        remarks := login.remarks ++ (written login.store).remarks, store }) := by
  simp only [write, done]

/-- What cannot be written leaves the login as it was, apart from the remarks. -/
theorem write_of_error {written : SessionStore → Noted (Except Fault SessionStore)} {fault : Fault}
    (stuck : (written login.store).value = .error fault) :
    write written login =
      (.error (.fault fault),
        { login with remarks := login.remarks ++ (written login.store).remarks }) := by
  simp only [write, stuck]

/-- Dropping the session leaves the login as it was with an empty store. -/
theorem forget_spec (holds : login.store.Holds held) :
    ∃ after, forget login = (.ok (), after) ∧ after.store.Holds none ∧
      after.phase = login.phase := by
  obtain ⟨written, cleared, empty⟩ := holds.clear
  exact ⟨_, write_of_ok cleared, empty, rfl⟩

/-- Storing a session that can be written leaves the login as it was with that session. -/
theorem keep_spec (holds : login.store.Holds held) {session : WalletSession}
    (writable : session.record.IsWritable) :
    ∃ after, keep session login = (.ok (), after) ∧ after.store.Holds (some session) := by
  obtain ⟨written, saved, kept⟩ := holds.save writable
  exact ⟨_, write_of_ok saved, kept⟩

/-- A session that the store does not take leaves the login as it was. -/
theorem authenticate_of_not_takes {session : WalletSession}
    (refuses : ¬ login.store.Takes session) :
    authenticate session login = (.error (.fault SessionRecord.unwritable), login) := by
  have refused := SessionStore.save_of_not_takes refuses
  have failed : (login.store.save session).value = .error SessionRecord.unwritable := by
    rw [refused]
  rw [authenticate, keep, Attempt.andThen_error (write_of_error failed), refused]
  simp only [List.append_nil]

/-- Loading finds the session in the store and leaves phase and store as they were. -/
theorem load_spec (holds : login.store.Holds held) :
    ∃ after, load login = (.ok held, after) ∧ after.store = login.store ∧
      after.phase = login.phase := by
  refine ⟨{ login with remarks := login.remarks ++ login.store.load.remarks }, ?_, rfl, rfl⟩
  simp only [load, holds.load]
  rfl

/-- A login stands on a session that its store holds. -/
def StandsOn (login : Login) (session : WalletSession) : Prop :=
  login.phase = .authenticated ∧ login.store.Holds (some session) ∧
    session.accessToken.isEmpty = false

/-- A login stands on nothing, and its store is empty. -/
def IsVacant (login : Login) : Prop := login.phase ≠ .authenticated ∧ login.store.Holds none

/-- Storing a session with a token makes the login stand on it. -/
theorem authenticate_spec (holds : login.store.Holds held) {session : WalletSession}
    (writable : session.record.IsWritable) (token : session.accessToken.isEmpty = false) :
    ∃ after, authenticate session login = (.ok session.login, after) ∧ after.StandsOn session := by
  obtain ⟨kept, keeping, holdsIt⟩ := keep_spec holds writable
  refine ⟨kept.enter .authenticated none, ?_, rfl, holdsIt, token⟩
  rw [authenticate, Attempt.andThen_ok keeping]

@[simp] theorem settle_ok {α : Type} (value : α) :
    settle (.ok value) login = (.ok value, login) := rfl

/-- A result that is settled leaves the store as it was, and authenticates nobody. -/
theorem settle_keeps {α : Type} (result : Except Failure α)
    (standing : login.phase ≠ .authenticated) :
    ∃ after, settle result login = (result, after) ∧ after.store = login.store ∧
      after.phase ≠ .authenticated := by
  unfold settle
  split
  · exact ⟨login, rfl, rfl, standing⟩
  · exact ⟨_, rfl, rfl, by simp [enter]⟩
  · exact ⟨login, rfl, rfl, standing⟩

/-- A result that is settled on a vacant login leaves it vacant. -/
theorem settle_vacant {α : Type} (result : Except Failure α) (vacant : login.IsVacant) :
    ∃ after, settle result login = (result, after) ∧ after.IsVacant := by
  obtain ⟨after, settled, store, standing⟩ := settle_keeps result vacant.1
  refine ⟨after, settled, standing, ?_⟩
  rw [store]
  exact vacant.2

/-- The start of a verification empties the store. -/
theorem beginVerify_vacant (holds : login.store.Holds held) (address : Option String) :
    (beginVerify address login).2.IsVacant := by
  obtain ⟨emptied, forgetting, empty, _⟩ := forget_spec holds
  have vacant : (emptied.enter .verifying none).IsVacant := ⟨by simp [enter], empty⟩
  obtain ⟨after, settled, stays⟩ :=
    settle_vacant ((Wallet.normalize address).mapError .desk) vacant
  rw [beginVerify, Attempt.andThen_ok forgetting, settled]
  exact stays

theorem takeChallenge_vacant (vacant : login.IsVacant) (answer : Except Failure NonceChallenge) :
    (takeChallenge answer login).2.IsVacant := by
  obtain ⟨after, settled, stays⟩ := settle_vacant (answer.bind challengeMessage) vacant
  rw [takeChallenge, settled]
  exact stays

theorem takeSignature_vacant (vacant : login.IsVacant) (answer : Except Failure Json) :
    (takeSignature answer login).2.IsVacant := by
  obtain ⟨after, settled, stays⟩ := settle_vacant (signatureText answer) vacant
  rw [takeSignature, settled]
  exact stays

/-- A token that opens a session is not empty. -/
theorem tokenSession_token {wallet : String} {token : VerifiedToken} {session : WalletSession}
    (opens : tokenSession wallet token = .ok session) : session.accessToken.isEmpty = false := by
  unfold tokenSession at opens
  split at opens
  · cases opens
  · split at opens
    · cases opens
    · rename_i given
      split at opens
      · cases opens
      · cases opens
        simpa using given

theorem answered_token {wallet : String} {answer : Except Failure VerifiedToken}
    {session : WalletSession} (opens : answer.bind (tokenSession wallet) = .ok session) :
    session.accessToken.isEmpty = false := by
  cases answer with
  | error failure =>
      rw [Except.bind] at opens
      cases opens
  | ok token =>
      rw [Except.bind] at opens
      exact tokenSession_token opens

/-- An attempt to log in makes the login stand on its session, or leaves it vacant. -/
def Concludes (result : Except Failure LoginResult) (after : Login) : Prop :=
  match result with
  | .ok told => ∃ session, told = session.login ∧ after.StandsOn session
  | .error _ => after.IsVacant

theorem takeToken_concludes (vacant : login.IsVacant) (wallet : String)
    (answer : Except Failure VerifiedToken) :
    Concludes (takeToken wallet answer login).1 (takeToken wallet answer login).2 := by
  obtain ⟨settled, settling, stays⟩ := settle_vacant (answer.bind (tokenSession wallet)) vacant
  rw [takeToken]
  cases opened : answer.bind (tokenSession wallet) with
  | error failure =>
      rw [opened] at settling
      rw [Attempt.andThen_error settling]
      exact stays
  | ok session =>
      rw [opened] at settling
      rw [Attempt.andThen_ok settling]
      by_cases takes : settled.store.Takes session
      · have writable := takes.resolve_left stays.2.slots_ne_none
        obtain ⟨after, standing, stands⟩ :=
          authenticate_spec stays.2 writable (answered_token opened)
        rw [standing]
        exact ⟨session, rfl, stands⟩
      · rw [authenticate_of_not_takes takes]
        exact stays

/-- A verification from any login whose store can be read. -/
theorem verify_concludes {σ ρ : Type} (backend : Backend σ) (signer : Signer ρ)
    (address : Option String) (state : σ) (wallet : ρ) (holds : login.store.Holds held) :
    Concludes (verify backend signer address (login, state, wallet)).1
      (verify backend signer address (login, state, wallet)).2.1 := by
  have begun := beginVerify_vacant holds address
  unfold verify
  dsimp only
  split
  · rename_i beginning
    rw [beginning] at begun
    exact begun
  · rename_i owner login beginning
    rw [beginning] at begun
    have challenged := takeChallenge_vacant begun (backend.requestNonce owner state).1
    split
    · rename_i challenge
      rw [challenge] at challenged
      exact challenged
    · rename_i message login challenge
      rw [challenge] at challenged
      have signed := takeSignature_vacant challenged (signer message wallet).1
      split
      · rename_i signature
        rw [signature] at signed
        exact signed
      · rename_i signature login signing
        rw [signing] at signed
        exact takeToken_concludes signed owner _

/-- The session is dropped for good. -/
theorem drop_vacant {α : Type} (holds : login.store.Holds held) (message : String) :
    ∃ failure after, (drop message : Attempt Login α) login = (.error failure, after) ∧
      after.IsVacant := by
  obtain ⟨emptied, forgetting, empty, _⟩ := forget_spec holds
  refine ⟨.desk (.session message), emptied.enter .error (some message), ?_, ?_, empty⟩
  · rw [drop, Attempt.andThen_ok forgetting]
    rfl
  · simp [enter]

end Login

end OtcDesk
