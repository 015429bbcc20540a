import OtcDesk.Proofs.Login.Course

namespace OtcDesk

/-- A question that a backend is asked. -/
inductive Question where
  | nonce (wallet : String)
  | verify (wallet signature : String)
  | owner (token : String)
  | trade (token : String) (left right : DealerIntent) (proofType : String)
  | jobs (run : String) (token : Option String)
  deriving DecidableEq, Repr

/-- A question is noted, and then it is answered. -/
def Question.noted {σ α : Type} (question : Question) (answers : Attempt σ α) :
    Attempt (σ × List Question) α := fun (state, asked) =>
  let (answer, state) := answers state
  (answer, state, asked ++ [question])

/-- A backend that notes what it is asked. -/
def Backend.noting {σ : Type} (backend : Backend σ) : Backend (σ × List Question) where
  requestNonce wallet := (Question.nonce wallet).noted (backend.requestNonce wallet)
  verifySignature wallet signature :=
    (Question.verify wallet signature).noted (backend.verifySignature wallet signature)
  fetchMe token := (Question.owner token).noted (backend.fetchMe token)
  startOrchestration token left right proofType :=
    (Question.trade token left right proofType).noted
      (backend.startOrchestration token left right proofType)
  fetchProofJobs run token :=
    (Question.jobs run token).noted (backend.fetchProofJobs run token)

/-- All that is asked is one question about what is meant, if there is such a thing. -/
def AskedOnce {α : Type} (asked : List Question) (meant : α → Prop) (question : α → Question) :
    Prop :=
  asked.length ≤ 1 ∧ ∀ other, other ∈ asked ↔ ∃ value, meant value ∧ other = question value

theorem askedOnce_nil {α : Type} {meant : α → Prop} (question : α → Question)
    (absent : ∀ value, ¬ meant value) : AskedOnce [] meant question := by
  refine ⟨Nat.zero_le 1, fun other => ?_⟩
  constructor
  · intro member
    cases member
  · rintro ⟨value, holds, _⟩
    exact absurd holds (absent value)

theorem askedOnce_singleton {α : Type} {meant : α → Prop} {value : α} (question : α → Question)
    (holds : meant value) (unique : ∀ other, meant other → other = value) :
    AskedOnce [question value] meant question := by
  refine ⟨Nat.le_refl 1, fun other => ?_⟩
  rw [List.mem_singleton]
  constructor
  · intro same
    exact ⟨value, holds, same⟩
  · rintro ⟨also, alsoHolds, same⟩
    rw [unique also alsoHolds] at same
    exact same

/-- A wallet that notes the messages it is shown. -/
def Signer.noting {ρ : Type} (signer : Signer ρ) : Signer (ρ × List String) :=
  fun message (wallet, shown) =>
    let (answer, wallet) := signer message wallet
    (answer, wallet, shown ++ [message])

namespace Login

variable {σ ρ : Type} {login : Login} {emptied : SessionStore} {backend : Backend σ}
  {signer : Signer ρ} {address : Option String} {state : σ} {wallet : ρ}

theorem challengeMessage_eq_ok {challenge : NonceChallenge} {message : String} :
    challengeMessage challenge = .ok message ↔
      challenge.accepted = true ∧ challenge.message = message := by
  cases accepted : challenge.accepted <;> simp [challengeMessage, accepted]

/-- A message to sign is that of a challenge that was accepted. -/
theorem exists_challenge {answer : Except Failure NonceChallenge} {message : String}
    (challenged : answer.bind challengeMessage = .ok message) :
    ∃ challenge, answer = .ok challenge ∧ challenge.accepted = true ∧
      challenge.message = message := by
  cases answer with
  | error failure => cases challenged
  | ok challenge => exact ⟨challenge, rfl, challengeMessage_eq_ok.mp challenged⟩

/-- A wallet has signed if it answers with anything that counts as given. -/
theorem signatureText_eq_ok {answer : Except Failure Json} {signature : String} :
    signatureText answer = .ok signature ↔
      ∃ value, answer = .ok value ∧ value.isGiven = true ∧ value.text = signature := by
  cases answer with
  | error failure => cases failure <;> simp [signatureText]
  | ok value => cases given : value.isGiven <;> simp [signatureText, given]

/-- A verification passes its gates: address, challenge, signature and token are all accepted. -/
structure Passes (backend : Backend σ) (signer : Signer ρ) (address : Option String) (state : σ)
    (wallet : ρ) (owner : String) (challenge : NonceChallenge) (value : Json)
    (token : VerifiedToken) (role : Role) : Prop where
  named : Wallet.normalize address = .ok owner
  challenged : (backend.requestNonce owner state).1 = .ok challenge
  accepted : challenge.accepted = true
  signed : (signer challenge.message wallet).1 = .ok value
  given : value.isGiven = true
  answered : (backend.verifySignature owner value.text (backend.requestNonce owner state).2).1 =
    .ok token
  granted : token.accepted = true
  nonempty : token.accessToken ≠ ""
  recognized : Role.recognize? (some token.role) = some role

/-- The session of a token: its wallet is the one that the answer names, or else the owner. -/
def sessionOf (owner : String) (token : VerifiedToken) (role : Role) : WalletSession :=
  ⟨token.accessToken, Text.orElse token.walletAddress owner, role, token.expiresAt⟩

section Passes

variable {owner message signature : String} {challenge : NonceChallenge} {value : Json}
  {token : VerifiedToken} {role : Role} {session : WalletSession}

theorem Passes.toSigned (passes : Passes backend signer address state wallet owner challenge value
      token role) :
    Signed backend signer address state wallet owner challenge.message value.text where
  named := passes.named
  challenged := by
    rw [passes.challenged]
    exact challengeMessage_eq_ok.mpr ⟨passes.accepted, rfl⟩
  signed := signatureText_eq_ok.mpr ⟨value, passes.signed, passes.given, rfl⟩

theorem Passes.opens (passes : Passes backend signer address state wallet owner challenge value
      token role) :
    (backend.verifySignature owner value.text (backend.requestNonce owner state).2).1.bind
      (tokenSession owner) = .ok (sessionOf owner token role) := by
  rw [passes.answered, Except.bind, tokenSession_eq_ok]
  exact ⟨passes.granted, by simpa using passes.nonempty, passes.recognized, rfl, rfl, rfl⟩

/-- A verification that opens a session has passed its gates under the token of it. -/
theorem exists_passes
    (signed : Signed backend signer address state wallet owner message signature)
    (answered : (backend.verifySignature owner signature
      (backend.requestNonce owner state).2).1.bind (tokenSession owner) = .ok session) :
    ∃ challenge value token role,
      Passes backend signer address state wallet owner challenge value token role ∧
        session = sessionOf owner token role := by
  obtain ⟨named, challenged, signs⟩ := signed
  obtain ⟨value, signed, given, rfl⟩ := signatureText_eq_ok.mp signs
  obtain ⟨challenge, nonce, accepted, rfl⟩ := exists_challenge challenged
  cases brought : (backend.verifySignature owner value.text
      (backend.requestNonce owner state).2).1 with
  | error failure =>
      rw [brought] at answered
      cases answered
  | ok token =>
      rw [brought, Except.bind] at answered
      obtain ⟨granted, nonempty, recognized, text, owned, expiry⟩ := tokenSession_eq_ok.mp answered
      refine ⟨challenge, value, token, session.role, ⟨named, nonce, accepted, signed, given,
        brought, granted, by simpa using nonempty, recognized⟩, ?_⟩
      rw [sessionOf, ← text, ← owned, ← expiry]

end Passes

/-- A verification that passes with a writable expiry returns its session. -/
theorem verify_of_passes {owner : String} {challenge : NonceChallenge} {value : Json}
    {token : VerifiedToken} {role : Role} (cleared : login.store.clear.value = .ok emptied)
    (kept : emptied.slots ≠ none)
    (passes : Passes backend signer address state wallet owner challenge value token role)
    (writable : Text.isConvertible token.expiresAt = true) :
    let ended := verify backend signer address (login, state, wallet)
    ended.1 = .ok (sessionOf owner token role).login ∧
      ended.2.1.store.Holds (some (sessionOf owner token role)) ∧
      ended.2.1.phase = .authenticated ∧ ended.2.1.error = none := by
  have takes : emptied.Takes (sessionOf owner token role) := .inr writable
  obtain ⟨written, saved, holds⟩ := (SessionStore.isEmpty_of_clear cleared).save takes
  rw [verify_of_opened cleared passes.toSigned passes.opens saved]
  exact ⟨rfl, holds kept, rfl, rfl⟩

/-- A verification that passes with an expiry that cannot be written is broken off before its end. -/
theorem verify_of_unwritable {owner : String} {challenge : NonceChallenge} {value : Json}
    {token : VerifiedToken} {role : Role} (cleared : login.store.clear.value = .ok emptied)
    (kept : emptied.slots ≠ none)
    (passes : Passes backend signer address state wallet owner challenge value token role)
    (unwritable : ¬ Text.isConvertible token.expiresAt = true) :
    let ended := verify backend signer address (login, state, wallet)
    ended.1 = .error (.fault SessionRecord.unwritable) ∧ ended.2.1.phase = .verifying ∧
      ended.2.1.error = none := by
  have refuses : ¬ emptied.Takes (sessionOf owner token role) := not_or.mpr ⟨kept, unwritable⟩
  rw [verify_of_unkept cleared passes.toSigned passes.opens refuses]
  exact ⟨rfl, rfl, rfl⟩

/-- Over slots a verification returns exactly if it passes with an expiry that can be written. -/
theorem verify_returns_iff (cleared : login.store.clear.value = .ok emptied)
    (kept : emptied.slots ≠ none) :
    (∃ told, (verify backend signer address (login, state, wallet)).1 = .ok told) ↔
      ∃ owner challenge value token role,
        Passes backend signer address state wallet owner challenge value token role ∧
          Text.isConvertible token.expiresAt = true := by
  constructor
  · rintro ⟨told, returned⟩
    have ends := verify_ends cleared backend signer address state wallet
    generalize verify backend signer address (login, state, wallet) = ended at ends returned
    cases ends with
    | misnamed => cases returned
    | unchallenged => cases returned
    | unsigned => cases returned
    | refused => cases returned
    | unkept => cases returned
    | opened signed answered saved =>
        obtain ⟨challenge, value, token, role, passes, same⟩ := exists_passes signed answered
        rw [same] at saved
        have writable := (SessionStore.takes_of_save saved).resolve_left kept
        exact ⟨_, challenge, value, token, role, passes, writable⟩
  · rintro ⟨owner, challenge, value, token, role, passes, writable⟩
    exact ⟨_, (verify_of_passes cleared kept passes writable).1⟩

/-- A verification that fails leaves the emptied store, and what the failure leaves of a login. -/
theorem verify_fails (cleared : login.store.clear.value = .ok emptied) {failure : Failure}
    (raised : (verify backend signer address (login, state, wallet)).1 = .error failure) :
    (verify backend signer address (login, state, wallet)).2.1 =
      (login.verifying emptied).failed failure := by
  have ends := verify_ends cleared backend signer address state wallet
  generalize verify backend signer address (login, state, wallet) = ended at ends raised ⊢
  cases ends with
  | opened signed answered saved => cases raised
  | _ =>
      cases raised
      rfl

/-- A verification does not depend on its being noted. -/
theorem verify_noting (asked : List Question) (shown : List String) :
    let plain := verify backend signer address (login, state, wallet)
    let noted := verify backend.noting signer.noting address (login, (state, asked), wallet, shown)
    plain = (noted.1, noted.2.1, noted.2.2.1.1, noted.2.2.2.1) := by
  dsimp only [verify, Backend.noting, Question.noted, Signer.noting]
  rcases beginVerify address login with ⟨failure | owner, begun⟩
  · rfl
  · dsimp only
    rcases takeChallenge (backend.requestNonce owner state).1 begun with
      ⟨failure | message, challenged⟩
    · rfl
    · dsimp only
      rcases takeSignature (signer message wallet).1 challenged with ⟨failure | signature, signed⟩
      · rfl
      · rfl

/-- A verification asks for a challenge and then for a token, for which the message was signed. -/
structure Asks (backend : Backend σ) (signer : Signer ρ) (state : σ) (wallet : ρ) (owner : String)
    (asked : List Question) (shown : List String) : Prop where
  inOrder : ∃ signature, asked <+: [.nonce owner, .verify owner signature]
  token : ∀ signature, .verify owner signature ∈ asked → ∃ challenge value,
    (backend.requestNonce owner state).1 = .ok challenge ∧ challenge.accepted = true ∧
      shown = [challenge.message] ∧ (signer challenge.message wallet).1 = .ok value ∧
      value.isGiven = true ∧ signature = value.text

/-- A verification that has not asked for a token asks in order. -/
theorem asks_of_nonce (owner : String) (shown : List String) :
    Asks backend signer state wallet owner [.nonce owner] shown where
  inOrder := ⟨"", by simp⟩
  token := by simp

/-- A verification that has its signature may ask for a token. -/
theorem asks_of_signed {owner message signature : String}
    (signed : Signed backend signer address state wallet owner message signature) :
    Asks backend signer state wallet owner [.nonce owner, .verify owner signature] [message] where
  inOrder := ⟨signature, List.prefix_rfl⟩
  token := by
    obtain ⟨_, challenged, signs⟩ := signed
    obtain ⟨challenge, answered, accepted, rfl⟩ := exists_challenge challenged
    obtain ⟨value, signed, given, rfl⟩ := signatureText_eq_ok.mp signs
    intro signature asked
    obtain rfl : signature = value.text := by simpa using asked
    exact ⟨challenge, value, answered, accepted, rfl, signed, given, rfl⟩

/-- Nothing is asked for an address that is none, and for an owner everything is asked in order. -/
theorem verify_asks (cleared : login.store.clear.value = .ok emptied) :
    let noted := verify backend.noting signer.noting address (login, (state, []), wallet, [])
    (∀ refusal, Wallet.normalize address = .error refusal →
      noted.2.2.1.2 = [] ∧ noted.2.2.2.2 = []) ∧
    ∀ owner, Wallet.normalize address = .ok owner →
      Asks backend signer state wallet owner noted.2.2.1.2 noted.2.2.2.2 := by
  intro noted
  constructor
  · intro refusal named
    have ends : noted = _ := verify_of_misnamed cleared named
    rw [ends]
    exact ⟨rfl, rfl⟩
  · intro owner named
    have ends := verify_ends cleared backend.noting signer.noting address (state, []) (wallet, [])
    change VerificationEnds _ _ _ _ _ _ noted at ends
    generalize noted = ended at ends
    cases ends with
    | misnamed refused =>
        rw [named] at refused
        cases refused
    | unchallenged also =>
        rw [named] at also
        cases also
        exact asks_of_nonce owner []
    | @unsigned _ message _ also =>
        rw [named] at also
        cases also
        exact asks_of_nonce owner [message]
    | refused signed =>
        obtain ⟨also, challenged, signs⟩ := signed
        rw [named] at also
        cases also
        exact asks_of_signed ⟨named, challenged, signs⟩
    | opened signed =>
        obtain ⟨also, challenged, signs⟩ := signed
        rw [named] at also
        cases also
        exact asks_of_signed ⟨named, challenged, signs⟩
    | unkept signed =>
        obtain ⟨also, challenged, signs⟩ := signed
        rw [named] at also
        cases also
        exact asks_of_signed ⟨named, challenged, signs⟩

/-- A wallet declines: it fails for reasons of its own, or answers what does not count as given. -/
inductive Declines : Except Failure Json → Prop where
  | fails (fault : Fault) : Declines (.error (.fault fault))
  | answersNothing {value : Json} (nothing : value.isGiven = false) : Declines (.ok value)

theorem signatureText_of_declines {answer : Except Failure Json} (declines : Declines answer) :
    ∃ reason, signatureText answer = .error (.desk (.signatureDeclined reason)) := by
  cases declines with
  | fails fault => exact ⟨_, rfl⟩
  | answersNothing nothing =>
      refine ⟨DeskError.declinedReason, ?_⟩
      simp [signatureText, nothing]

/-- A verification passes all gates and stores a session that can be written, or stores nothing. -/
theorem verification_all_or_nothing {slots : Slots} {content : Option String}
    (kept : login.store.slots = some slots)
    (readable : (slots.get login.store.key).value = .ok content) (backend : Backend σ)
    (signer : Signer ρ) (address : Option String) (state : σ) (wallet : ρ) :
    let noted := verify backend.noting signer.noting address (login, (state, []), wallet, [])
    let result := noted.1
    let after := noted.2.1
    let asked := noted.2.2.1.2
    let shown := noted.2.2.2.2
    verify backend signer address (login, state, wallet) =
      (result, after, noted.2.2.1.1, noted.2.2.2.1) ∧
    ((∃ told, result = .ok told) ↔ ∃ owner challenge value token role,
      Passes backend signer address state wallet owner challenge value token role ∧
        Text.isConvertible token.expiresAt = true) ∧
    (∀ owner challenge value token role,
      Passes backend signer address state wallet owner challenge value token role →
      Text.isConvertible token.expiresAt = true →
        result = .ok (sessionOf owner token role).login ∧
        after.store.Holds (some (sessionOf owner token role)) ∧
        after.store.load.value = .ok (some (sessionOf owner token role)) ∧
        after.phase = .authenticated ∧ after.error = none) ∧
    (∀ owner challenge value token role,
      Passes backend signer address state wallet owner challenge value token role →
      ¬ Text.isConvertible token.expiresAt = true →
        result = .error (.fault SessionRecord.unwritable) ∧ after.phase = .verifying ∧
        after.error = none) ∧
    (∀ failure, result = .error failure →
      after.store.Holds none ∧ after.store.load.value = .ok none) ∧
    (∀ error, result = .error (.desk error) →
      after.phase = .error ∧ after.error = some error.message) ∧
    (∀ owner challenge, Wallet.normalize address = .ok owner →
      (backend.requestNonce owner state).1 = .ok challenge → challenge.accepted = true →
      Declines (signer challenge.message wallet).1 →
        ∃ reason, result = .error (.desk (.signatureDeclined reason))) ∧
    (∀ refusal, Wallet.normalize address = .error refusal → asked = [] ∧ shown = []) ∧
    ∀ owner, Wallet.normalize address = .ok owner →
      Asks backend signer state wallet owner asked shown := by
  intro noted result after asked shown
  obtain ⟨emptied, cleared, empties⟩ := (SessionStore.isReadable_of_get kept readable).clear
  have empty : emptied.Holds none := empties (by simp [kept])
  have plain : verify backend signer address (login, state, wallet) =
      (result, after, noted.2.2.1.1, noted.2.2.2.1) := verify_noting [] []
  refine ⟨plain, ?returns, ?passes, ?brokenOff, ?fails, ?errs, ?declines, verify_asks cleared⟩
  case returns =>
    have returns : (∃ told, (verify backend signer address (login, state, wallet)).1 = .ok told) ↔
        _ := verify_returns_iff cleared empty.slots_ne_none
    rw [plain] at returns
    exact returns
  case passes =>
    intro owner challenge value token role passes writable
    have ends := verify_of_passes cleared empty.slots_ne_none passes writable
    rw [plain] at ends
    obtain ⟨told, holds, phase, error⟩ := ends
    exact ⟨told, holds, holds.load, phase, error⟩
  case brokenOff =>
    intro owner challenge value token role passes unwritable
    have ends := verify_of_unwritable cleared empty.slots_ne_none passes unwritable
    rw [plain] at ends
    exact ends
  case fails =>
    intro failure raised
    have left : after = _ := verify_fails cleared raised
    rw [left, failed_store]
    exact ⟨empty, SessionStore.Holds.load empty⟩
  case errs =>
    intro error raised
    have left : after = _ := verify_fails cleared raised
    rw [left]
    exact ⟨rfl, rfl⟩
  case declines =>
    intro owner challenge named answered accepted declines
    have challenged : (backend.requestNonce owner state).1.bind challengeMessage =
        .ok challenge.message := by
      rw [answered]
      exact challengeMessage_eq_ok.mpr ⟨accepted, rfl⟩
    obtain ⟨reason, declined⟩ := signatureText_of_declines declines
    have ends := verify_of_unsigned cleared named challenged declined
    rw [plain] at ends
    exact ⟨reason, congrArg Prod.fst ends⟩

/-- A wallet that signs replaces another text in the slot, and one that does not empties it. -/
theorem second_verification_replaces :
    let backend : Backend Unit :=
      { requestNonce := fun wallet state => (.ok ⟨true, wallet, "n", "sign me", 9, none, ""⟩, state)
        verifySignature := fun _ _ state => (.ok ⟨true, "token", "", " Ops ", 9, none, ""⟩, state)
        fetchMe := fun _ state => (.error .interrupted, state)
        startOrchestration := fun _ _ _ _ state => (.error .interrupted, state)
        fetchProofJobs := fun _ _ state => (.error .interrupted, state) }
    let signs : Signer Unit := fun _ wallet => (.ok (.int 7), wallet)
    let declines : Signer Unit := fun _ wallet => (.ok (.str ""), wallet)
    let address := some " 0xABCDEFabcdef0123456789ABCDEFabcdef012345"
    let owner := "0xabcdefabcdef0123456789abcdefabcdef012345"
    let slots : Slots := .memory [(SessionStore.defaultKey, "old")]
    let login : Login :=
      { phase := .error, error := some "old", store := ⟨some slots, SessionStore.defaultKey⟩ }
    (slots.get SessionStore.defaultKey).value = .ok (some "old") ∧
      (verify backend.noting signs.noting address (login, ((), []), (), [])).2.1.store.load.value =
        .ok (some ⟨"token", owner, .ops, 9⟩) ∧
      ∃ reason, (verify backend.noting declines.noting address (login, ((), []), (), [])).1 =
        .error (.desk (.signatureDeclined reason)) := by
  intro backend signs declines address owner slots login
  have named : Wallet.normalize address = .ok owner := by decide +kernel
  have readable : (slots.get SessionStore.defaultKey).value = .ok (some "old") := rfl
  have kept : login.store.slots = some slots := rfl
  obtain ⟨-, -, passes, -⟩ :=
    verification_all_or_nothing kept readable backend signs address () ()
  obtain ⟨-, -, -, -, -, -, declined, -⟩ :=
    verification_all_or_nothing kept readable backend declines address () ()
  have challenged : (backend.requestNonce owner ()).1 =
      .ok ⟨true, owner, "n", "sign me", 9, none, ""⟩ := rfl
  have granted : (backend.verifySignature owner (Json.int 7).text ()).1 =
      .ok ⟨true, "token", "", " Ops ", 9, none, ""⟩ := rfl
  have opened := passes owner _ (.int 7) _ .ops
    ⟨named, challenged, rfl, rfl, rfl, granted, rfl, by decide, by decide +kernel⟩
    (by decide +kernel)
  exact ⟨readable, opened.2.2.1, declined owner _ named challenged rfl (.answersNothing rfl)⟩

/-- A backend whose tokens have an expiry of one digit too many. -/
def endlessBackend : Backend Unit where
  requestNonce wallet state := (.ok ⟨true, wallet, "n", "sign me", 9, none, ""⟩, state)
  verifySignature _ _ state :=
    (.ok ⟨true, "token", "", "ops", 10 ^ Text.digitLimit, none, ""⟩, state)
  fetchMe _ state := (.error .interrupted, state)
  startOrchestration _ _ _ _ state := (.error .interrupted, state)
  fetchProofJobs _ _ state := (.error .interrupted, state)

/-- A verification passes all of its gates and does not return. -/
theorem endless_token_opens_nothing :
    let signs : Signer Unit := fun _ wallet => (.ok (.str "0xsig"), wallet)
    let owner := "0xabababababababababababababababababababab"
    let login : Login := { store := ⟨some (.memory []), SessionStore.defaultKey⟩ }
    let ended := verify endlessBackend signs (some owner) (login, (), ())
    Passes endlessBackend signs (some owner) () () owner ⟨true, owner, "n", "sign me", 9, none, ""⟩
        (.str "0xsig") ⟨true, "token", "", "ops", 10 ^ Text.digitLimit, none, ""⟩ .ops ∧
      ended.1 = .error (.fault SessionRecord.unwritable) ∧ ended.2.1.phase = .verifying := by
  intro signs owner login ended
  have named : Wallet.normalize (some owner) = .ok owner := by decide +kernel
  have passes : Passes endlessBackend signs (some owner) () () owner
      ⟨true, owner, "n", "sign me", 9, none, ""⟩ (.str "0xsig")
      ⟨true, "token", "", "ops", 10 ^ Text.digitLimit, none, ""⟩ .ops :=
    ⟨named, rfl, rfl, rfl, rfl, rfl, rfl, by decide, by decide +kernel⟩
  have cleared : login.store.clear.value = .ok login.store := rfl
  obtain ⟨fails, phase, _⟩ := verify_of_unwritable cleared nofun passes Text.not_isConvertible_pow
  exact ⟨passes, fails, phase⟩

end Login

end OtcDesk
