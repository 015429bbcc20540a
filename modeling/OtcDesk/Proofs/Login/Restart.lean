import OtcDesk.Proofs.Backend.PracticeCalls
import OtcDesk.Proofs.Desk.Submission
import OtcDesk.Proofs.Login.Gates

namespace OtcDesk

namespace Practice

/-- A practice backend backs a session whose token it issued to a wallet of its role. -/
structure Backs (state : State) (session : WalletSession) : Prop where
  issued : Issued state session.accessToken session.walletAddress
  recognized : Role.recognize? (some (state.1.roleOf session.walletAddress)) = some session.role
  nonempty : session.accessToken.isEmpty = false

variable {state : State} {session : WalletSession} {moment : Clock} {reading : Int}

/-- A session is backed whatever calls are made, as long as no identifier is drawn twice. -/
theorem Backs.afterCalls (backs : Backs state session) (calls : List PracticeCall)
    (distinct : (afterCalls state calls).2.Distinct (afterCalls state calls).2.uuidsDrawn) :
    Backs (afterCalls state calls) session where
  issued := backs.issued.afterCalls calls distinct
  recognized := by
    rw [(afterCalls_continues calls state).roleOf]
    exact backs.recognized
  nonempty := backs.nonempty

/-- The owner of the token of a backed session is the wallet of the session, in its role. -/
theorem Backs.fetchMe (backs : Backs state session) :
    ∃ identity, (fetchMe session.accessToken state).1 = .ok identity ∧
      identity.authenticated = true ∧ identity.walletAddress = session.walletAddress ∧
      Role.recognize? (some identity.role) = some session.role := by
  have known : (note "me" state).1.tokens.get? session.accessToken = some session.walletAddress :=
    backs.issued.known
  let identity : WalletIdentity :=
    { authenticated := true, walletAddress := session.walletAddress,
      role := state.1.roleOf session.walletAddress }
  refine ⟨identity, ?_, rfl, rfl, backs.recognized⟩
  simp only [Practice.fetchMe, known]
  rfl

/-- Asking for the owner of a token leaves a session backed. -/
theorem Backs.asked (backs : Backs state session) (token : String) :
    Backs (Practice.fetchMe token state).2 session := by
  rw [fetchMe_state]
  exact ⟨⟨backs.issued.known, backs.issued.drawn⟩, backs.recognized, backs.nonempty⟩

end Practice

namespace Login

variable {login : Login} {session : WalletSession}

/-- An answer that names the wallet and the role of a session confirms the session as it is. -/
theorem takeIdentity_of_same {identity : WalletIdentity} (known : identity.authenticated = true)
    (recognized : Role.recognize? (some identity.role) = some session.role)
    (wallet : identity.walletAddress = session.walletAddress) :
    takeIdentity session (.ok identity) login = authenticate session login := by
  have same : Text.orElse identity.walletAddress session.walletAddress = session.walletAddress := by
    rw [wallet, Text.orElse]
    split <;> rfl
  simp only [takeIdentity, known, Bool.not_true, Bool.false_eq_true, if_false, recognized, same]

/-- A restoration takes up a live session that is backed, and leaves it as it is. -/
theorem restore_of_backs {state : Practice.State} {moment : Clock}
    (backs : Practice.Backs state session) (holds : login.store.Holds (some session))
    (live : isExpired session.expiresAt moment = .ok false) :
    let restored := restore (Practice.backend moment) moment (login, state)
    restored.1 = .ok (some session.login) ∧ restored.2.1.store.Holds (some session) ∧
      restored.2.2 = (Practice.fetchMe session.accessToken state).2 := by
  obtain ⟨emptied, cleared, _⟩ := holds.clear
  obtain ⟨written, saved, kept⟩ := holds.save (holds.1 session rfl)
  obtain ⟨identity, answered, known, wallet, recognized⟩ := backs.fetchMe
  have taken : takeIdentity session (Practice.fetchMe session.accessToken state).1 login.seen =
      (.ok session.login, login.seen.opened session written) := by
    rw [answered, takeIdentity_of_same known recognized wallet]
    exact authenticate_of_save saved
  rw [restore, beginRestore_of_load holds.load cleared, live]
  dsimp only [Practice.backend]
  rw [taken]
  exact ⟨rfl, kept, rfl⟩

/-- A restoration drops a session that is over, and asks nothing. -/
theorem restore_of_expired {σ : Type} {backend : Backend σ} {state : σ} {moment : Clock}
    (holds : login.store.Holds (some session))
    (past : isExpired session.expiresAt moment = .ok true) :
    let restored := restore backend moment (login, state)
    restored.1 = .ok none ∧ restored.2.1.store.Holds none ∧ restored.2.2 = state := by
  obtain ⟨emptied, cleared, empty⟩ := holds.clear
  rw [restore, beginRestore_of_load holds.load cleared, past]
  exact ⟨rfl, empty, rfl⟩

end Login

namespace Submission

/-- A submission brings a result that was accepted. -/
def Succeeds {σ : Type} (submitted : Noted (Except Failure OrchestrationResult) × σ) : Prop :=
  ∃ result, result.accepted = true ∧ submitted.1.value = .ok result

variable {store : SessionStore} {session : WalletSession} {moment : Clock} {reading : Int}

/-- Under a session that is over, nothing is submitted. -/
theorem submit_of_expired {σ : Type} {backend : Backend σ} {state : σ}
    (holds : store.Holds (some session)) (reads : moment.seconds = .ok reading)
    (past : session.expiresAt ≤ reading) (proofType : String) (left right : DealerIntent) :
    let submitted := submit backend store moment proofType left right state
    (∃ message, submitted.1.value = .error (.desk (.noSession message))) ∧ submitted.2 = state := by
  have refused : ∀ held, some session = some held → ¬ held.Admits reading := by
    intro held same admits
    obtain rfl := Option.some.inj same
    exact absurd past (Int.not_le.mpr admits.live)
  obtain ⟨message, submitted⟩ :=
    submit_of_none_admits holds.load reads refused backend proofType left right state
  rw [submitted]
  exact ⟨⟨message, rfl⟩, rfl⟩

/-- Under a live session that is backed, a trade is accepted unless another answer was set. -/
theorem submit_of_backs {state : Practice.State} (backs : Practice.Backs state session)
    (holds : store.Holds (some session)) (reads : moment.seconds = .ok reading)
    (live : reading < session.expiresAt) (unset : state.1.orchestration = none)
    (proofType : String) (left right : DealerIntent) :
    Succeeds (submit (Practice.backend moment) store moment proofType left right state) := by
  have given : session.accessToken ≠ "" := by
    intro empty
    have nonempty := backs.nonempty
    rw [empty] at nonempty
    cases nonempty
  have known : ((Practice.note "orchestrate" state).1.tokens.get? session.accessToken).isNone =
      false := by
    have issued : (Practice.note "orchestrate" state).1.tokens.get? session.accessToken =
        some session.walletAddress := backs.issued.known
    rw [issued]
    rfl
  have plain : (Practice.note "orchestrate" state).1.orchestration = none := unset
  rw [submit_of_admits holds.load reads ⟨given, live⟩]
  simp only [Practice.backend, Practice.startOrchestration, known, plain]
  exact ⟨_, rfl, rfl⟩

end Submission

namespace Login

variable {ρ : Type} {login : Login} {entropy : Entropy} {clock : Clock}

/-- The practice backend backs the session that it opens, which expires as the settings say. -/
theorem backs_of_answered {owner signature : String} {state : Practice.State}
    {session : WalletSession}
    (answered : (Practice.verifySignature clock owner signature state).1.bind (tokenSession owner) =
      .ok session) :
    Practice.Backs (Practice.verifySignature clock owner signature state).2 session ∧
      ∃ now, clock.seconds = .ok now ∧ session.expiresAt = now + state.1.tokenTtlSecs := by
  cases brought : (Practice.verifySignature clock owner signature state).1 with
  | error failure =>
      rw [brought] at answered
      cases answered
  | ok token =>
      rw [brought, Except.bind, tokenSession_eq_ok] at answered
      obtain ⟨granted, nonempty, recognized, same, wallet, expiry⟩ := answered
      obtain ⟨issued, named, role, now, reads, expires⟩ :=
        Practice.verifySignature_grants brought granted
      have owned : session.walletAddress = owner := by
        rw [wallet, named, Text.orElse]
        split <;> rfl
      have stays := (Practice.verifySignature_proceeds clock owner signature state).roleOf owner
      refine ⟨⟨?_, ?_, ?_⟩, now, reads, expiry.trans expires⟩
      · rw [same, owned]
        exact issued
      · rw [owned, stays, ← role]
        exact recognized
      · rw [same]
        exact nonempty

/-- A verification that returned has left a session that the practice backend backs. -/
theorem verify_backs {emptied : SessionStore} (cleared : login.store.clear.value = .ok emptied)
    (kept : emptied.slots ≠ none) {signer : Signer ρ} {address : Option String}
    {state : Practice.State} {wallet : ρ} {told : LoginResult}
    (returned : (verify (Practice.backend clock) signer address (login, state, wallet)).1 =
      .ok told) :
    let ended := verify (Practice.backend clock) signer address (login, state, wallet)
    ∃ session, told = session.login ∧ ended.2.1.store.Holds (some session) ∧
      Practice.Backs ended.2.2.1 session ∧
      ∃ now, clock.seconds = .ok now ∧ session.expiresAt = now + state.1.tokenTtlSecs := by
  intro ended
  have ends := verify_ends cleared (Practice.backend clock) signer address state wallet
  change VerificationEnds _ _ _ _ _ _ ended at ends
  change ended.1 = .ok told at returned
  generalize ended = ended at ends returned
  cases ends with
  | misnamed => cases returned
  | unchallenged => cases returned
  | unsigned => cases returned
  | refused => cases returned
  | unkept => cases returned
  | @opened owner message signature session written signed answered saved =>
      cases returned
      obtain ⟨other, again, holds⟩ :=
        (SessionStore.isEmpty_of_clear cleared).save (SessionStore.takes_of_save saved)
      obtain rfl : written = other := Except.ok.inj (saved.symm.trans again)
      obtain ⟨backs, now, reads, expires⟩ := backs_of_answered answered
      have lifetime : ((Practice.backend clock).requestNonce owner state).2.1.tokenTtlSecs =
          state.1.tokenTtlSecs := Practice.requestNonce_tokenTtlSecs ..
      rw [lifetime] at expires
      exact ⟨session, rfl, holds kept, backs, now, reads, expires⟩

/-- A verification with the practice backend returns if nothing that it reads fails. -/
theorem verify_returns {emptied : SessionStore} (cleared : login.store.clear.value = .ok emptied)
    (kept : emptied.slots ≠ none) {signer : Signer ρ} {address : Option String} {practice : Practice} {wallet : ρ}
    {owner : String} {now : Int} {value : Json} {role : Role}
    (named : Wallet.normalize address = .ok owner) (reads : clock.seconds = .ok now)
    (signed : (signer (loginMessage owner (entropy.uuids entropy.uuidsDrawn).hex now 1) wallet).1 =
      .ok value)
    (given : value.isGiven = true) (nonempty : value.text.isEmpty = false)
    (recognized : Role.recognize? (some (practice.roleOf owner)) = some role)
    (writable : Text.isConvertible (now + practice.tokenTtlSecs) = true) :
    ∃ told, (verify (Practice.backend clock) signer address
      (login, (practice, entropy), wallet)).1 = .ok told := by
  obtain ⟨challenge, answered, accepted, message, waits⟩ :=
    Practice.requestNonce_of_reads reads owner (practice, entropy)
  obtain ⟨token, brought, granted, same, known⟩ :=
    Practice.verifySignature_of_challenged waits nonempty reads
  refine (verify_returns_iff cleared kept).mpr ⟨owner, challenge, value, token, role, ⟨named,
    answered, accepted, ?_, given, brought, granted, ?_, ?_⟩, ?_⟩
  · rw [message]
    exact signed
  · rw [same]
    simp [Practice.tokenAt]
  · have stays := (Practice.requestNonce_proceeds clock owner (practice, entropy)).roleOf owner
    rw [known, stays]
    exact recognized
  · obtain ⟨_, _, _, reading, again, expires⟩ := Practice.verifySignature_grants brought granted
    obtain rfl : now = reading := Except.ok.inj (reads.symm.trans again)
    rw [expires, Practice.requestNonce_tokenTtlSecs]
    exact writable

/-- A login is taken up again by a new one over its store before its expiry, and never after it. -/
theorem login_survives_restart {slots : Slots} {content : Option String}
    (kept : login.store.slots = some slots)
    (readable : (slots.get login.store.key).value = .ok content) (practice : Practice)
    (entropy : Entropy) (clock : Clock) (signer : Signer ρ) (address : Option String)
    (wallet : ρ) :
    let ended := verify (Practice.backend clock) signer address (login, (practice, entropy), wallet)
    let store := ended.2.1.store
    (∀ owner now value role, Wallet.normalize address = .ok owner → clock.seconds = .ok now →
      (signer (loginMessage owner (entropy.uuids entropy.uuidsDrawn).hex now 1) wallet).1 =
        .ok value →
      value.isGiven = true → value.text.isEmpty = false →
      Role.recognize? (some (practice.roleOf owner)) = some role →
      Text.isConvertible (now + practice.tokenTtlSecs) = true → ∃ told, ended.1 = .ok told) ∧
    ∀ told, ended.1 = .ok told → ∃ session, told = session.login ∧ store.Holds (some session) ∧
      (∃ now, clock.seconds = .ok now ∧ session.expiresAt = now + practice.tokenTtlSecs) ∧
      ∀ calls moment reading, moment.seconds = .ok reading →
        let later := Practice.afterCalls ended.2.2.1 calls
        let restored := restore (Practice.backend moment) moment ({ store }, later)
        later.2.Distinct later.2.uuidsDrawn →
        (reading < session.expiresAt →
          restored.1 = .ok (some told) ∧ restored.2.1.store.Holds (some session) ∧
          (later.1.orchestration = none → ∀ proofType left right,
            Submission.Succeeds
              (Submission.submit (Practice.backend moment) store moment proofType left right later) ∧
            Submission.Succeeds
              (Submission.submit (Practice.backend moment) restored.2.1.store moment proofType left
                right restored.2.2))) ∧
        (session.expiresAt ≤ reading →
          restored.1 = .ok none ∧ restored.2.1.store.Holds none ∧ restored.2.2 = later ∧
          ∀ proofType left right,
            let submitted := Submission.submit (Practice.backend moment) store moment proofType left
              right later
            (∃ message, submitted.1.value = .error (.desk (.noSession message))) ∧
              submitted.2 = later) := by
  intro ended store
  obtain ⟨emptied, cleared, empties⟩ := (SessionStore.isReadable_of_get kept readable).clear
  have slotted : emptied.slots ≠ none := (empties (by simp [kept])).slots_ne_none
  constructor
  · intro owner now value role named reads signed given nonempty recognized writable
    exact verify_returns cleared slotted named reads signed given nonempty recognized writable
  · intro told returned
    obtain ⟨session, same, holds, backs, expiry⟩ := verify_backs cleared slotted returned
    refine ⟨session, same, holds, expiry, ?_⟩
    intro calls moment reading reads later restored distinct
    have backed : Practice.Backs later session := backs.afterCalls calls distinct
    have read := isExpired_of_reads reads session.expiresAt
    constructor
    · intro early
      have live : isExpired session.expiresAt moment = .ok false := by
        rw [read, decide_eq_false (Int.not_le.mpr early)]
      obtain ⟨result, stays, asked⟩ : restored.1 = .ok (some session.login) ∧
          restored.2.1.store.Holds (some session) ∧ restored.2.2 = _ :=
        restore_of_backs backed holds live
      refine ⟨same ▸ result, stays, ?_⟩
      intro unset proofType left right
      refine ⟨Submission.submit_of_backs backed holds reads early unset proofType left right, ?_⟩
      rw [asked]
      refine Submission.submit_of_backs (backed.asked _) stays reads early ?_ proofType left right
      rw [Practice.fetchMe_state]
      exact unset
    · intro late
      have past : isExpired session.expiresAt moment = .ok true := by
        rw [read, decide_eq_true late]
      obtain ⟨result, empty, asked⟩ : restored.1 = .ok none ∧
          restored.2.1.store.Holds none ∧ restored.2.2 = later := restore_of_expired holds past
      exact ⟨result, empty, asked, Submission.submit_of_expired holds reads late⟩

/-- A login is taken up again in the last second before its expiry, and no longer in the next. -/
theorem hour_long_login_taken_up :
    let owner := "0xabcdefabcdef0123456789abcdefabcdef012345"
    let other := "0xabababababababababababababababababababab"
    let login : Login := { store := ⟨some (.memory []), SessionStore.defaultKey⟩ }
    let entropy : Entropy :=
      { uuids := fun index => ⟨index⟩, signingSeeds := fun _ => [], sealingNonces := fun _ => [] }
    let signer : Signer Unit := fun _ wallet => (.ok (.str "signature"), wallet)
    let clock : Clock := .whole 1700000000
    let ended := verify (Practice.backend clock) signer (some owner)
      (login, (({} : Practice), entropy), ())
    let later := Practice.afterCalls ended.2.2.1 [.nonce clock other, .issue other]
    let restored := fun moment : Clock =>
      (restore (Practice.backend moment) moment ({ store := ended.2.1.store }, later)).1
    ∃ told, ended.1 = .ok told ∧ restored (.whole 1700003599) = .ok (some told) ∧
      restored (.whole 1700003600) = .ok none := by
  intro owner other login entropy signer clock ended later restored
  have named : Wallet.normalize (some owner) = .ok owner := by decide +kernel
  have recognized : Role.recognize? (some (({} : Practice).roleOf owner)) = some .dealer := by
    decide +kernel
  have kept : login.store.slots = some (.memory []) := rfl
  have empty : ((Slots.memory []).get login.store.key).value = .ok none := rfl
  obtain ⟨returns, survives⟩ :=
    login_survives_restart kept empty {} entropy clock signer (some owner) ()
  obtain ⟨told, returned⟩ :=
    returns owner 1700000000 (.str "signature") .dealer named rfl rfl rfl rfl recognized
      (by decide +kernel)
  obtain ⟨session, -, -, ⟨now, reads, expires⟩, taken⟩ := survives told returned
  obtain rfl : 1700000000 = now := Except.ok.inj reads
  have drawn : later.2.uuidsDrawn = 4 := by decide +kernel
  have four : ∀ last < 4, ∀ first < last,
      (later.2.uuids first).hex ≠ (later.2.uuids last).hex := by decide +kernel
  have distinct : later.2.Distinct later.2.uuidsDrawn := by
    rw [drawn]
    exact fun first last order within => four last within first order
  have early := (taken [.nonce clock other, .issue other] (.whole 1700003599) _ rfl distinct).1
  have late := (taken [.nonce clock other, .issue other] (.whole 1700003600) _ rfl distinct).2
  exact ⟨told, returned, (early (by rw [expires]; decide)).1, (late (by rw [expires]; decide)).1⟩

end Login

end OtcDesk
