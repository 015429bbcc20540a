import OtcDesk.Proofs.Login.Attempts

namespace OtcDesk.Login

variable {σ ρ : Type} {login : Login} {emptied : SessionStore} {fault : Fault}

/-- A login whose store was emptied for a verification. -/
def verifying (login : Login) (emptied : SessionStore) : Login where
  phase := .verifying
  store := emptied
  remarks := login.remarks ++ login.store.clear.remarks

theorem verifying_unauthenticated (login : Login) (emptied : SessionStore) :
    (login.verifying emptied).phase ≠ .authenticated := by simp [verifying]

/-- The wallet signs the message that the backend has for the owner of the address. -/
structure Signed (backend : Backend σ) (signer : Signer ρ) (address : Option String) (state : σ)
    (wallet : ρ) (owner message signature : String) : Prop where
  named : Wallet.normalize address = .ok owner
  challenged : (backend.requestNonce owner state).1.bind challengeMessage = .ok message
  signed : signatureText (signer message wallet).1 = .ok signature

/-- A verification fails with this store, and nobody is authenticated. -/
structure FailsOn (store : SessionStore) (result : Except Failure LoginResult) (after : Login) :
    Prop where
  failed : ∃ failure, result = .error failure
  store : after.store = store
  phase : after.phase ≠ .authenticated

/-- A verification starts by emptying the store. -/
theorem beginVerify_of_clear (cleared : login.store.clear.value = .ok emptied)
    (address : Option String) :
    beginVerify address login =
      settle ((Wallet.normalize address).mapError .desk) (login.verifying emptied) := by
  rw [beginVerify, forget, Attempt.andThen_ok (write_of_ok cleared)]
  rfl

/-- A verification that cannot empty the store fails at once, and nothing is asked of anyone. -/
theorem verify_of_clear_error (stuck : login.store.clear.value = .error fault)
    (backend : Backend σ) (signer : Signer ρ) (address : Option String) (state : σ) (wallet : ρ) :
    verify backend signer address (login, state, wallet) =
      (.error (.fault fault),
        { login with remarks := login.remarks ++ login.store.clear.remarks }, state, wallet) := by
  simp only [verify, beginVerify, forget, Attempt.andThen_error (write_of_error stuck)]

/-- The answer about the token decides a verification that gets to ask for it. -/
theorem verify_of_signed {backend : Backend σ} {signer : Signer ρ} {address : Option String}
    {state : σ} {wallet : ρ} {owner message signature : String}
    (cleared : login.store.clear.value = .ok emptied)
    (signed : Signed backend signer address state wallet owner message signature) :
    let answered := backend.verifySignature owner signature (backend.requestNonce owner state).2
    let ended := takeToken owner answered.1 (login.verifying emptied)
    verify backend signer address (login, state, wallet) =
      (ended.1, ended.2, answered.2, (signer message wallet).2) := by
  obtain ⟨named, challenged, signs⟩ := signed
  have begun : beginVerify address login = (.ok owner, login.verifying emptied) := by
    rw [beginVerify_of_clear cleared, named]
    rfl
  simp only [verify, begun, takeChallenge, challenged, takeSignature, signs, settle_ok]

/-- A token opens a session exactly if it was accepted, is not empty, and has a known role. -/
theorem tokenSession_eq_ok {owner : String} {token : VerifiedToken} {session : WalletSession} :
    tokenSession owner token = .ok session ↔
      token.accepted = true ∧ token.accessToken.isEmpty = false ∧
        Role.recognize? (some token.role) = some session.role ∧
        session.accessToken = token.accessToken ∧
        session.walletAddress = Text.orElse token.walletAddress owner ∧
        session.expiresAt = token.expiresAt := by
  obtain ⟨accessToken, walletAddress, role, expiresAt⟩ := session
  unfold tokenSession
  cases token.accepted with
  | false => simp
  | true =>
      cases token.accessToken.isEmpty with
      | true => simp
      | false =>
          cases recognized : Role.recognize? (some token.role) with
          | none => simp
          | some known =>
              simp only [Bool.not_true, Bool.false_eq_true, if_false, true_and]
              constructor
              · intro opens
                cases opens
                exact ⟨rfl, rfl, rfl, rfl⟩
              · rintro ⟨same, rfl, rfl, rfl⟩
                rw [Option.some.inj same]

end OtcDesk.Login
