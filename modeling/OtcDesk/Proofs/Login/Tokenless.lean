import OtcDesk.Proofs.Backend.Remote
import OtcDesk.Proofs.Login.Course

namespace OtcDesk

open Json

/-- An answer has no token: it is absent, null or the empty text. -/
def Tokenless (data : Table Json) : Prop :=
  data.get? "access_token" = none ∨ data.get? "access_token" = some .null ∨
    data.get? "access_token" = some (.str "")

/-- An answer about a token opens a session for the owner of a wallet. -/
structure OpensSession (data : Table Json) (owner : String) (session : WalletSession) : Prop where
  accepted : flagField data "accepted" = true
  given : (textField data "access_token").isEmpty = false
  recognized : Role.recognize? (some (textField data "role")) = some session.role
  token : session.accessToken = textField data "access_token"
  wallet : session.walletAddress = Text.orElse (textField data "wallet_address") owner
  expiry : integerField data "expires_at" = .ok session.expiresAt

/-- The text of a token that is absent or empty is empty, and that of null is not. -/
theorem Tokenless.isNull_iff {data : Table Json} (tokenless : Tokenless data) :
    (textField data "access_token").isEmpty = false ↔ data.get? "access_token" = some .null := by
  rcases tokenless with absent | null | empty
  · simp [textField, absent]
  · simp [textField, null, Json.text, Json.innerText]
  · simp [textField, empty, Json.text]

namespace Login

/-- A session comes of exactly those answers that open it. -/
theorem answered_session_iff {data : Table Json} {owner operation : String}
    {session : WalletSession} :
    (Backend.readAnswer VerifiedToken.ofPayload (.obj data) operation).bind
        (tokenSession owner) = .ok session ↔ OpensSession data owner session := by
  cases read : integerField data "expires_at" with
  | error fault =>
      constructor
      · intro opened
        have failed : VerifiedToken.ofPayload (.obj data) = .error fault := by
          simp only [VerifiedToken.ofPayload, Json.fields, read, bind, Except.bind]
        rw [Backend.readAnswer, failed] at opened
        dsimp only at opened
        split at opened
        · cases opened
        · cases opened
      · intro opens
        have expiry := opens.expiry
        rw [read] at expiry
        cases expiry
  | ok expiresAt =>
      have answered : Backend.readAnswer VerifiedToken.ofPayload (.obj data) operation = .ok
          { accepted := flagField data "accepted", accessToken := textField data "access_token",
            walletAddress := textField data "wallet_address", role := textField data "role",
            expiresAt, errorCode := optionalTextField data "error_code",
            reason := textField data "reason" } := by
        simp only [Backend.readAnswer, VerifiedToken.ofPayload, Json.fields, read, bind,
          Except.bind, pure, Except.pure]
      rw [answered, Except.bind, tokenSession_eq_ok]
      constructor
      · rintro ⟨accepted, given, recognized, token, wallet, expiry⟩
        exact ⟨accepted, given, recognized, token, wallet, by rw [read, expiry]⟩
      · rintro ⟨accepted, given, recognized, token, wallet, expiry⟩
        rw [read] at expiry
        exact ⟨accepted, given, recognized, token, wallet, (Except.ok.inj expiry).symm⟩

variable {ρ : Type} {remote : Remote} {first second : Reply} {later : List Reply}
  {data : Table Json} {signer : Signer ρ} {address : Option String} {wallet : ρ}

/-- The object in the second reply is the answer about the token. -/
theorem answered_of_brings (replies : remote.replies = first :: second :: later)
    (brings : second.Brings data) (owner signature : String) :
    (Remote.backend.verifySignature owner signature
      (Remote.backend.requestNonce owner remote).2).1 =
        Backend.readAnswer VerifiedToken.ofPayload (.obj data) "wallet verify" := by
  have next : (Remote.backend.requestNonce owner remote).2.replies = second :: later :=
    Remote.ask_replies replies ..
  exact Remote.ask_brings next brings ..

/-- A verification gets to ask for its token, and opens the session under one that is null. -/
def OpensOnNull (remote : Remote) (signer : Signer ρ) (address : Option String) (wallet : ρ)
    (data : Table Json) (session : WalletSession) : Prop :=
  data.get? "access_token" = some .null ∧ ∃ owner message signature,
    Signed Remote.backend signer address remote wallet owner message signature ∧
      OpensSession data owner session

/-- An answer without a token fails the verification unless its token is null. -/
theorem tokenless_failsOn {login : Login} {emptied : SessionStore}
    (replies : remote.replies = first :: second :: later) (brings : second.Brings data)
    (tokenless : Tokenless data) (cleared : login.store.clear.value = .ok emptied)
    (closed : ¬ ∃ session, OpensOnNull remote signer address wallet data session) :
    FailsOn emptied (verify Remote.backend signer address (login, remote, wallet)).1
      (verify Remote.backend signer address (login, remote, wallet)).2.1 := by
  have ends := verify_ends cleared Remote.backend signer address remote wallet
  generalize verify Remote.backend signer address (login, remote, wallet) = ended at ends ⊢
  cases ends with
  | misnamed => exact failed_failsOn login emptied _
  | unchallenged => exact failed_failsOn login emptied _
  | unsigned => exact failed_failsOn login emptied _
  | refused => exact failed_failsOn login emptied _
  | unkept => exact failed_failsOn login emptied _
  | opened signed answered saved =>
      rw [answered_of_brings replies brings] at answered
      have opens := answered_session_iff.mp answered
      have null := tokenless.isNull_iff.mp opens.given
      exact absurd ⟨_, null, _, _, _, signed, opens⟩ closed

/-- An answer that opens a session under a token that is null makes the login stand on it. -/
theorem verify_opensOnNull {login : Login} {emptied : SessionStore} {session : WalletSession}
    (replies : remote.replies = first :: second :: later) (brings : second.Brings data)
    (cleared : login.store.clear.value = .ok emptied)
    (goesThrough : OpensOnNull remote signer address wallet data session) :
    let ended := verify Remote.backend signer address (login, remote, wallet)
    session.accessToken = "None" ∧ ended.1 = .ok session.login ∧
      ended.2.1.phase = .authenticated ∧
      (login.store.slots ≠ none → ended.2.1.store.load.value = .ok (some session)) := by
  obtain ⟨null, owner, message, signature, signed, opens⟩ := goesThrough
  have answered : (Remote.backend.verifySignature owner signature
      (Remote.backend.requestNonce owner remote).2).1.bind (tokenSession owner) = .ok session := by
    rw [answered_of_brings replies brings]
    exact answered_session_iff.mpr opens
  obtain ⟨written, saved, holds⟩ :=
    (SessionStore.isEmpty_of_clear cleared).save (.inr (remote_session_isWritable answered))
  dsimp only
  rw [verify_of_opened cleared signed answered saved]
  refine ⟨?_, rfl, rfl, ?_⟩
  · rw [opens.token, textField, null]
    rfl
  · intro kept
    exact (holds (mt (SessionStore.slots_of_clear cleared) kept)).load

/-- A verification without a token keeps no session and authenticates nobody, unless it is null. -/
theorem tokenless_verification_fails_unless_null
    (replies : remote.replies = first :: second :: later) (brings : second.Brings data)
    (tokenless : Tokenless data) (login : Login) (signer : Signer ρ) (address : Option String)
    (wallet : ρ) :
    let ended := verify Remote.backend signer address (login, remote, wallet)
    (∀ fault, login.store.clear.value = .error fault →
      ended.1 = .error (.fault fault) ∧ ended.2.1.store = login.store ∧
        ended.2.1.phase = login.phase ∧ ended.2.2.1 = remote) ∧
    ∀ emptied, login.store.clear.value = .ok emptied →
      ((¬ ∃ session, OpensOnNull remote signer address wallet data session) →
        FailsOn emptied ended.1 ended.2.1 ∧ ended.2.1.store.load.value = .ok none) ∧
      ∀ session, OpensOnNull remote signer address wallet data session →
        session.accessToken = "None" ∧ ended.1 = .ok session.login ∧
          ended.2.1.phase = .authenticated ∧
          (login.store.slots ≠ none → ended.2.1.store.load.value = .ok (some session)) := by
  intro ended
  refine ⟨?stuck, fun emptied cleared => ⟨?refused, ?opened⟩⟩
  case stuck =>
    intro fault stuck
    have fails : ended = _ := verify_of_clear_error stuck Remote.backend signer address remote wallet
    rw [fails]
    exact ⟨rfl, rfl, rfl, rfl⟩
  case refused =>
    intro closed
    have fails : FailsOn emptied ended.1 ended.2.1 :=
      tokenless_failsOn replies brings tokenless cleared closed
    refine ⟨fails, ?_⟩
    rw [fails.store]
    exact (SessionStore.isEmpty_of_clear cleared).load
  case opened =>
    intro session goesThrough
    exact verify_opensOnNull replies brings cleared goesThrough

/-- A backend that answers with a message to sign, and then with this object. -/
def answering (body : String) : Remote where
  baseUrl := "http://desk"
  timeout := .ofInt 15
  replies := [
    .response 200 (Utf8.encode "\x7b\"accepted\": true, \"message\": \"sign me\"\x7d"),
    .response 200 (Utf8.encode body)]

/-- A login on empty slots in memory. -/
def onMemory : Login where
  store := { slots := some (.memory []), key := SessionStore.defaultKey }

/-- A wallet that signs everything. -/
def signing : Signer Unit := fun _ wallet => (.ok (.str "0xsig"), wallet)

/-- A verification that is answered with no token at all. -/
theorem absent_token_keeps_no_session :
    let remote := answering "\x7b\"accepted\": true, \"role\": \"dealer\"\x7d"
    let address := "0xabababababababababababababababababababab"
    let ended := verify Remote.backend signing (some address) (onMemory, remote, ())
    (∃ failure, ended.1 = .error failure) ∧ ended.2.1.phase ≠ .authenticated ∧
      ended.2.1.store.load.value = .ok none := by
  intro remote address ended
  have brings : Reply.Brings (.response 200 (Utf8.encode
      "\x7b\"accepted\": true, \"role\": \"dealer\"\x7d"))
      [("accepted", .bool true), ("role", .str "dealer")] :=
    ⟨200, _, rfl, rfl, by decide +kernel⟩
  have replies : remote.replies = [_, _] := rfl
  obtain ⟨-, answered⟩ := tokenless_verification_fails_unless_null replies brings (.inl rfl)
    onMemory signing (some address) ()
  obtain ⟨refused, -⟩ := answered _ rfl
  obtain ⟨fails, empty⟩ := refused (by
    rintro ⟨session, null, _⟩
    cases null)
  exact ⟨fails.failed, fails.phase, empty⟩

/-- A verification whose token is null returns, and leaves a session that the login stands on. -/
theorem null_token_opens_session :
    let body := "\x7b\"accepted\": true, \"access_token\": null, \"role\": \"dealer\", " ++
      "\"expires_at\": 2000000000\x7d"
    let data : Table Json := [("accepted", .bool true), ("access_token", .null),
      ("role", .str "dealer"), ("expires_at", .int 2000000000)]
    let address := "0xabababababababababababababababababababab"
    let ended := verify Remote.backend signing (some address) (onMemory, answering body, ())
    (Reply.response 200 (Utf8.encode body)).Brings data ∧ Tokenless data ∧
      ended.1 = .ok ⟨address, .dealer, PanelAccess.ofRole .dealer⟩ ∧
      ended.2.1.phase = .authenticated ∧
      ended.2.1.store.load.value = .ok (some ⟨"None", address, .dealer, 2000000000⟩) := by
  intro body data address ended
  have brings : (Reply.response 200 (Utf8.encode body)).Brings data :=
    ⟨200, _, rfl, rfl, by decide +kernel⟩
  have signed : Signed Remote.backend signing (some address) (answering body) () address "sign me"
      "0xsig" := by
    refine ⟨?_, ?_, rfl⟩
    · decide +kernel
    · decide +kernel
  have opens : OpensSession data address ⟨"None", address, .dealer, 2000000000⟩ := by
    refine ⟨rfl, ?_, ?_, rfl, ?_, rfl⟩ <;> decide +kernel
  have replies : (answering body).replies = [_, .response 200 (Utf8.encode body)] := rfl
  have cleared : onMemory.store.clear.value = .ok onMemory.store := rfl
  obtain ⟨-, result, phase, stored⟩ :=
    verify_opensOnNull replies brings cleared ⟨rfl, _, _, _, signed, opens⟩
  exact ⟨brings, .inr (.inl rfl), result, phase, stored (by simp [onMemory])⟩

end Login

end OtcDesk
