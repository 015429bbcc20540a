import OtcDesk.Proofs.Login.Departure
import OtcDesk.Proofs.Login.Tokenless
import OtcDesk.Proofs.Wallet

namespace OtcDesk

/-- A text leaves the wallet of an owner open, or names it in letters of any case. -/
def NamesAtMost (text owner : String) : Prop := text = "" ∨ Text.SameLetters text owner

theorem NamesAtMost.sameLetters {text owner : String} (names : NamesAtMost text owner) :
    Text.SameLetters (Text.orElse text owner) owner := by
  unfold Text.orElse
  split
  · rfl
  · rename_i named
    exact names.resolve_left fun empty => named (String.isEmpty_iff.mpr empty)

/-- An answer about a token names at most the wallet of its owner. -/
inductive AnswersFor (owner : String) : Except Failure VerifiedToken → Prop where
  | token {token : VerifiedToken} (names : NamesAtMost token.walletAddress owner) :
      AnswersFor owner (.ok token)
  | absent {data : Table Json} {operation : String}
      (absent : data.get? "wallet_address" = none) :
      AnswersFor owner (Backend.readAnswer VerifiedToken.ofPayload (.obj data) operation)
  | object {data : Table Json} {operation text : String}
      (found : data.get? "wallet_address" = some (.str text)) (names : NamesAtMost text owner) :
      AnswersFor owner (Backend.readAnswer VerifiedToken.ofPayload (.obj data) operation)

namespace Login

variable {login : Login} {owner : String} {session : WalletSession}

/-- A connected wallet is that of the owner, up to the blanks around it and the case of its letters. -/
def IsConnectedTo (owner : String) (connected : Option String) : Prop :=
  ∃ address, connected = some address ∧ Text.SameLetters (Text.strip address) owner

/-- A login stands on a session of an owner. -/
structure StandsFor (login : Login) (owner : String) : Prop where
  phase : login.phase = .authenticated
  holds : ∃ session, login.store.Holds (some session) ∧
    Text.SameLetters session.walletAddress owner

/-- A login goes on with the wallet of its owner, and ends with every other one. -/
structure NoticesSwitch (login : Login) (owner : String) : Prop where
  stays : ∀ connected, IsConnectedTo owner connected →
    ∃ after, walletChanged connected login = (.ok false, after) ∧ after.phase = login.phase ∧
      after.error = login.error ∧ after.store = login.store
  ends : ∀ connected, ¬ IsConnectedTo owner connected →
    ∃ after, walletChanged connected login = (.ok true, after) ∧ after.phase = .anonymous ∧
      after.error = none ∧ after.store.Holds none ∧
      ∀ later, walletChanged later after = (.ok false, after)

/-- A login after wallets were connected, one after the other. -/
def afterWallets (login : Login) (connected : List (Option String)) : Login :=
  connected.foldl (fun login address => (walletChanged address login).2) login

/-- The wallets of a session of an owner are those of the owner. -/
theorem isWalletOf_iff (unmistakable : Text.IsUnmistakable owner) (nonempty : owner ≠ "")
    (same : Text.SameLetters session.walletAddress owner) (connected : Option String) :
    isWalletOf session connected = true ↔ IsConnectedTo owner connected := by
  have lowered : Text.lower session.walletAddress = owner :=
    (Text.lower_eq_iff unmistakable _).mpr same
  unfold isWalletOf IsConnectedTo
  rw [lowered]
  cases connected with
  | none => simp [Text.given?]
  | some address =>
      by_cases given : address.isEmpty = true
      · -- no owner has the empty address
        obtain rfl : address = "" := String.isEmpty_iff.mp given
        have blank : ¬ Text.SameLetters (Text.strip "") owner := by
          intro alike
          have lower : Text.lower (Text.strip "") = owner :=
            (Text.lower_eq_iff unmistakable _).mpr alike
          exact nonempty lower.symm
        simp [Text.given?, blank]
      · simp [Text.given?, given, Text.lower_eq_iff unmistakable]

/-- A login that stands on a session looks into its store when a wallet is connected. -/
theorem walletChanged_of_holds (phase : login.phase = .authenticated)
    (holds : login.store.Holds (some session)) (connected : Option String) :
    walletChanged connected login =
      if isWalletOf session connected then (.ok false, login.seen)
      else logout.andThen (fun _ login => (.ok true, login)) login.seen := by
  have looked : Login.session login = (.ok (some session), login.seen) := by
    rw [Login.session, if_pos phase, load_eq, holds.load]
    rfl
  rw [walletChanged, Attempt.andThen_ok looked]

/-- A login on a session of an owner notices a switch. -/
theorem StandsFor.noticesSwitch (stands : login.StandsFor owner)
    (unmistakable : Text.IsUnmistakable owner) (nonempty : owner ≠ "") :
    login.NoticesSwitch owner := by
  obtain ⟨phase, session, holds, same⟩ := stands
  have known := isWalletOf_iff unmistakable nonempty same
  constructor
  case stays =>
    intro connected own
    refine ⟨login.seen, ?_, rfl, rfl, rfl⟩
    rw [walletChanged_of_holds phase holds, if_pos ((known connected).mpr own)]
  case ends =>
    intro connected other
    obtain ⟨emptied, cleared, empty⟩ := holds.clear
    have cleared : login.seen.store.clear.value = .ok emptied := cleared
    have left : walletChanged connected login =
        (.ok true, (login.seen.emptied emptied).enter .anonymous none) := by
      rw [walletChanged_of_holds phase holds, if_neg (mt (known connected).mp other), logout]
      exact Attempt.andThen_ok (Attempt.andThen_ok (forget_of_clear cleared) _) _
    exact ⟨_, left, rfl, rfl, empty, (isLoggedOut_of_walletChanged left).walletChanged⟩

/-- The wallet of the owner leaves the login on its session. -/
theorem StandsFor.walletChanged (stands : login.StandsFor owner)
    (unmistakable : Text.IsUnmistakable owner) (nonempty : owner ≠ "")
    {connected : Option String} (own : IsConnectedTo owner connected) :
    (Login.walletChanged connected login).2.StandsFor owner := by
  obtain ⟨after, changed, phase, -, store⟩ :=
    (stands.noticesSwitch unmistakable nonempty).stays connected own
  rw [changed]
  exact ⟨phase.trans stands.phase, store ▸ stands.holds⟩

theorem StandsFor.afterWallets (unmistakable : Text.IsUnmistakable owner) (nonempty : owner ≠ "")
    (connected : List (Option String)) (own : ∀ address ∈ connected, IsConnectedTo owner address)
    {login : Login} (stands : login.StandsFor owner) :
    (login.afterWallets connected).StandsFor owner := by
  induction connected generalizing login with
  | nil => exact stands
  | cons address later inductionHypothesis =>
      obtain ⟨here, rest⟩ := List.forall_mem_cons.mp own
      exact inductionHypothesis rest (stands.walletChanged unmistakable nonempty here)

/-- The session that comes of an answer which names at most the owner's wallet is the owner's. -/
theorem sameLetters_of_answersFor {answer : Except Failure VerifiedToken}
    (own : AnswersFor owner answer) (opens : answer.bind (tokenSession owner) = .ok session) :
    Text.SameLetters session.walletAddress owner := by
  cases own with
  | token names =>
      rw [Except.bind, tokenSession_eq_ok] at opens
      obtain ⟨-, -, -, -, address, -⟩ := opens
      exact address ▸ names.sameLetters
  | absent absent =>
      have read := (answered_session_iff.mp opens).wallet
      rw [read, Json.textField, absent]
      exact NamesAtMost.sameLetters (.inl rfl)
  | object found names =>
      have read := (answered_session_iff.mp opens).wallet
      rw [read, Json.textField, found]
      exact names.sameLetters

section Verification

variable {σ ρ : Type} {slots : Slots} {backend : Backend σ} {signer : Signer ρ}
  {address : Option String} {state : σ} {wallet : ρ} {told : LoginResult}

/-- A verification that returned leaves the login on a session of the owner it was signed for. -/
theorem standsFor_of_verify (kept : login.store.slots = some slots)
    (returned : (verify backend signer address (login, state, wallet)).1 = .ok told) :
    ∃ owner message signature, Signed backend signer address state wallet owner message signature ∧
      (AnswersFor owner
          (backend.verifySignature owner signature (backend.requestNonce owner state).2).1 →
        (verify backend signer address (login, state, wallet)).2.1.StandsFor owner) := by
  cases cleared : login.store.clear.value with
  | error fault =>
      rw [verify_of_clear_error cleared] at returned
      cases returned
  | ok emptied =>
      have slotted : emptied.slots ≠ none := by
        intro absent
        rw [SessionStore.slots_of_clear cleared absent] at kept
        cases kept
      have ends := verify_ends cleared backend signer address state wallet
      generalize verify backend signer address (login, state, wallet) = ended at ends returned ⊢
      cases ends with
      | misnamed => cases returned
      | unchallenged => cases returned
      | unsigned => cases returned
      | refused => cases returned
      | unkept => cases returned
      | @opened owner message signature session written signed answered saved =>
          obtain ⟨other, again, holds⟩ :=
            (SessionStore.isEmpty_of_clear cleared).save (SessionStore.takes_of_save saved)
          obtain rfl : written = other := Except.ok.inj (saved.symm.trans again)
          exact ⟨owner, message, signature, signed, fun own =>
            ⟨rfl, session, holds slotted, sameLetters_of_answersFor own answered⟩⟩

/-- A verified login stays through every spelling of its wallet and ends with the first other. -/
theorem wallet_switch_noticed_exactly (kept : login.store.slots = some slots)
    (returned : (verify backend signer address (login, state, wallet)).1 = .ok told) :
    let verified := (verify backend signer address (login, state, wallet)).2.1
    ∃ owner message signature, Signed backend signer address state wallet owner message signature ∧
      (AnswersFor owner
          (backend.verifySignature owner signature (backend.requestNonce owner state).2).1 →
        ∀ before : List (Option String), (∀ connected ∈ before, IsConnectedTo owner connected) →
          (verified.afterWallets before).NoticesSwitch owner) := by
  intro verified
  obtain ⟨owner, message, signature, signed, stands⟩ := standsFor_of_verify kept returned
  obtain ⟨unmistakable, nonempty⟩ := Wallet.isUnmistakable_of_normalize signed.named
  refine ⟨owner, message, signature, signed, ?_⟩
  intro own before connected
  have stays := (stands own).afterWallets unmistakable nonempty before connected
  exact stays.noticesSwitch unmistakable nonempty

end Verification

/-- A login goes on with its wallet in mixed case, and ends with a Cyrillic look-alike. -/
theorem look_alike_ends_login :
    let body := "\x7b\"accepted\": true, \"access_token\": \"token\", \"role\": \"dealer\", " ++
      "\"wallet_address\": \"0XABABABABABABABABABABABABABABABABABABABAB\", " ++
      "\"expires_at\": 2000000000\x7d"
    let address := some "0xAbababababababababababababababababababab"
    let verified := (verify Remote.backend signing address (onMemory, answering body, ())).2.1
    let own := some "\u00a0 0xABabababababababababababababababababABAB\t"
    let other := some "0x\u0430bababababababababababababababababababab"
    let again := verified.afterWallets [own]
    (∃ after, walletChanged own again = (.ok false, after) ∧ after.phase = again.phase ∧
      after.error = again.error ∧ after.store = again.store) ∧
    ∃ after, walletChanged other again = (.ok true, after) ∧ after.phase = .anonymous ∧
      after.error = none ∧ after.store.Holds none ∧
      ∀ later, walletChanged later after = (.ok false, after) := by
  intro body address verified own other again
  let owner := "0xabababababababababababababababababababab"
  let capitals := "0XABABABABABABABABABABABABABABABABABABABAB"
  let data : Table Json := [("accepted", .bool true), ("access_token", .str "token"),
    ("role", .str "dealer"), ("wallet_address", .str capitals), ("expires_at", .int 2000000000)]
  have kept : onMemory.store.slots = some (.memory []) := rfl
  have returned : (verify Remote.backend signing address (onMemory, answering body, ())).1 =
      .ok ⟨capitals, .dealer, PanelAccess.ofRole .dealer⟩ := by decide +kernel
  have brings : (Reply.response 200 (Utf8.encode body)).Brings data :=
    ⟨200, _, rfl, rfl, by decide +kernel⟩
  have replies : (answering body).replies = [_, .response 200 (Utf8.encode body)] := rfl
  obtain ⟨named, message, signature, signed, notices⟩ := wallet_switch_noticed_exactly kept returned
  have same : named = owner := by
    have known : Wallet.normalize address = .ok owner := by decide +kernel
    exact Except.ok.inj (signed.named.symm.trans known)
  rw [same, answered_of_brings replies brings] at notices
  have connected : IsConnectedTo owner own := ⟨_, rfl, by decide +kernel⟩
  have strange : ¬ IsConnectedTo owner other := by
    rintro ⟨_, given, alike⟩
    obtain rfl := Option.some.inj given
    revert alike
    decide +kernel
  have noticed : again.NoticesSwitch owner :=
    notices (.object rfl (.inr (by decide +kernel))) [own] (by simpa using connected)
  exact ⟨noticed.stays own connected, noticed.ends other strange⟩

end Login

end OtcDesk
