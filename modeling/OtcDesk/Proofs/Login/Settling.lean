import OtcDesk.Proofs.Backend.Remote
import OtcDesk.Proofs.Login.Agreement
import OtcDesk.Proofs.Login.Course

namespace OtcDesk

/-- A failure is one of the desk's own errors. -/
def Failure.isOwn : Failure → Bool
  | .desk _ => true
  | .fault _ | .interrupted => false

/-- A result strays: it is a failure that is none of the desk's own errors. -/
def Strays {α : Type} (result : Except Failure α) : Prop :=
  ∃ failure : Failure, failure.isOwn = false ∧ result = .error failure

section Strays

variable {α β : Type}

@[simp] theorem not_strays_ok (value : α) : ¬ Strays (.ok value : Except Failure α) := by
  simp [Strays]

@[simp] theorem strays_error (failure : Failure) :
    Strays (.error failure : Except Failure α) ↔ failure.isOwn = false := by
  simp [Strays]

/-- What goes on with a result and never strays itself leaves straying to that result. -/
theorem strays_bind {next : α → Except Failure β} (own : ∀ value, ¬ Strays (next value))
    (result : Except Failure α) : Strays (result.bind next) ↔ Strays result := by
  cases result with
  | error failure => simp [Except.bind]
  | ok value => simp [Except.bind, own value]

theorem not_strays_of_isTyped {result : Except Failure α} (typed : isTyped result = true) :
    ¬ Strays result := by
  rintro ⟨failure, foreign, rfl⟩
  cases failure with
  | desk error => cases foreign
  | fault fault => cases typed
  | interrupted => cases typed

end Strays

namespace Remote

/-- The next answer about a wallet can be neither a record nor an error of the desk. -/
inductive Derails : List Reply → Prop where
  | silent : Derails []
  | unusable (message : String) (later : List Reply) : Derails (.badAddress message :: later)
  | escaping {reply : Reply} {fault : Fault}
      (escapes : reply.Escapes (fun data => Json.InfiniteAt data "expires_at") fault)
      (later : List Reply) : Derails (reply :: later)

/-- A question whose record expires strays exactly if the replies derail it. -/
theorem ask_strays_iff {α : Type} {remote : Remote} {read : Json → Except Fault α}
    (reads : ∀ data, OverflowsIff (read (.obj data)) (Json.InfiniteAt data "expires_at"))
    (method : Method) (path operation : String) (json : Option Json) (token : Option String) :
    Strays (ask read method path operation json token remote).1 ↔ Derails remote.replies := by
  cases next : remote.replies with
  | nil =>
      have asked : (ask read method path operation json token remote).1 =
          .error (.fault ⟨.running, "no reply is left"⟩) := by
        simp only [ask, send, next]
        rfl
      rw [asked]
      exact iff_of_true (by simp [Failure.isOwn]) .silent
  | cons reply later =>
      by_cases exchange : reply.IsExchange
      · have ends := ask_typedUnless next exchange reads method path operation json token
        constructor
        · intro strays
          by_contra kept
          refine not_strays_of_isTyped (ends.typed ?_) strays
          exact fun fault escapes => kept (.escaping escapes later)
        · intro derails
          cases derails with
          | unusable message later => exact exchange.elim
          | escaping escapes later =>
              rw [ends.escapes _ escapes]
              simp [Failure.isOwn]
      · cases reply with
        | response status body => exact absurd trivial exchange
        | failure message => exact absurd trivial exchange
        | badAddress message =>
            rw [ask_reply next]
            exact iff_of_true (by simp [receive, Except.bind, Failure.isOwn]) (.unusable message later)

theorem requestNonce_strays_iff (owner : String) (remote : Remote) :
    Strays (requestNonce owner remote).1 ↔ Derails remote.replies := by
  apply ask_strays_iff
  intro data
  apply (NonceChallenge.overflowsIff _).of_iff
  simp

theorem verifySignature_strays_iff (owner signature : String) (remote : Remote) :
    Strays (verifySignature owner signature remote).1 ↔ Derails remote.replies := by
  apply ask_strays_iff
  intro data
  apply (VerifiedToken.overflowsIff _).of_iff
  simp

end Remote

namespace Login

variable {σ ρ : Type} {login : Login} {emptied : SessionStore}

/-- A login waits for no answer, and has an error exactly in the phase of errors. -/
def IsSettled (login : Login) : Prop :=
  login.phase ≠ .verifying ∧ (login.error.isSome = true ↔ login.phase = .error)

instance (login : Login) : Decidable login.IsSettled := by
  unfold IsSettled
  infer_instance

theorem failed_isSettled (settled : login.IsSettled) (failure : Failure) :
    (login.failed failure).IsSettled := by
  cases failure with
  | desk error => exact ⟨by simp [failed, enter], by simp [failed, enter]⟩
  | fault fault => exact settled
  | interrupted => exact settled

/-- Of a login that waits, only an error of the desk makes a settled one. -/
theorem verifying_failed_isSettled_iff (failure : Failure) :
    ((login.verifying emptied).failed failure).IsSettled ↔ failure.isOwn = true := by
  cases failure with
  | desk error => simp [IsSettled, failed, enter, Failure.isOwn]
  | fault fault => simp [IsSettled, failed, verifying, Failure.isOwn]
  | interrupted => simp [IsSettled, failed, verifying, Failure.isOwn]

theorem opened_isSettled (session : WalletSession) (store : SessionStore) :
    (login.opened session store).IsSettled := by
  simp [IsSettled, opened]

theorem challengeMessage_own (challenge : NonceChallenge) :
    ¬ Strays (challengeMessage challenge) := by
  unfold challengeMessage
  split <;> simp [Failure.isOwn]

/-- Of all that a wallet can answer, only its breaking off is not understood. -/
theorem signatureText_strays_iff (answer : Except Failure Json) :
    Strays (signatureText answer) ↔ answer = .error .interrupted := by
  cases answer with
  | ok value => cases given : value.isGiven <;> simp [signatureText, given, Failure.isOwn]
  | error failure => cases failure <;> simp [signatureText, Failure.isOwn]

theorem tokenSession_own (owner : String) (token : VerifiedToken) :
    ¬ Strays (tokenSession owner token) := by
  unfold tokenSession
  split
  · simp [Failure.isOwn]
  · split
    · simp [Failure.isOwn]
    · split <;> simp [Failure.isOwn]

/-- A verification leaves the login settled exactly if it returns or raises an error of the desk. -/
theorem verify_isSettled_iff (cleared : login.store.clear.value = .ok emptied)
    (backend : Backend σ) (signer : Signer ρ) (address : Option String) (state : σ) (wallet : ρ) :
    (verify backend signer address (login, state, wallet)).2.1.IsSettled ↔
      ¬ Strays (verify backend signer address (login, state, wallet)).1 := by
  have ends := verify_ends cleared backend signer address state wallet
  generalize verify backend signer address (login, state, wallet) = ended at ends ⊢
  cases ends with
  | misnamed named => simp [verifying_failed_isSettled_iff, Failure.isOwn]
  | unchallenged named answered => simp [verifying_failed_isSettled_iff]
  | unsigned named challenged answered => simp [verifying_failed_isSettled_iff]
  | refused signed answered => simp [verifying_failed_isSettled_iff]
  | opened signed answered saved => simp [opened_isSettled]
  | unkept signed answered refuses => simp [verifying_failed_isSettled_iff]

/-- A verification is broken off, as one of its questions is derailed or the wallet breaks off. -/
inductive Strands (remote : Remote) (signer : Signer ρ) (address : Option String) (wallet : ρ) :
    Prop where
  | unchallenged {owner : String} (named : Wallet.normalize address = .ok owner)
      (derails : Remote.Derails remote.replies)
  | unsigned {owner message : String} (named : Wallet.normalize address = .ok owner)
      (challenged : (Remote.backend.requestNonce owner remote).1.bind challengeMessage = .ok message)
      (breaksOff : (signer message wallet).1 = .error .interrupted)
  | untold {owner message signature : String}
      (signed : Signed Remote.backend signer address remote wallet owner message signature)
      (derails : Remote.Derails remote.replies.tail)

/-- The first reply decides whether the answer about the challenge strays. -/
theorem challenge_strays_iff (owner : String) (remote : Remote) :
    Strays ((Remote.backend.requestNonce owner remote).1.bind challengeMessage) ↔
      Remote.Derails remote.replies := by
  rw [strays_bind challengeMessage_own]
  exact Remote.requestNonce_strays_iff owner remote

/-- The reply after the first decides whether the answer about the token strays. -/
theorem token_strays_iff (owner signature : String) (remote : Remote) :
    Strays ((Remote.backend.verifySignature owner signature
        (Remote.backend.requestNonce owner remote).2).1.bind (tokenSession owner)) ↔
      Remote.Derails remote.replies.tail := by
  have later : (Remote.backend.requestNonce owner remote).2.replies = remote.replies.tail :=
    Remote.ask_tail ..
  rw [strays_bind (tokenSession_own owner), ← later]
  exact Remote.verifySignature_strays_iff owner signature _

section Strands

variable {remote : Remote} {signer : Signer ρ} {address : Option String} {wallet : ρ}
  {owner message signature : String}

theorem Strands.exists_owner (strands : Strands remote signer address wallet) :
    ∃ owner, Wallet.normalize address = .ok owner := by
  cases strands with
  | unchallenged named derails => exact ⟨_, named⟩
  | unsigned named challenged breaksOff => exact ⟨_, named⟩
  | untold signed derails => exact ⟨_, signed.named⟩

/-- Without a message to sign, only the first question matters. -/
theorem strands_iff_of_unchallenged {failure : Failure}
    (named : Wallet.normalize address = .ok owner)
    (answered : (Remote.backend.requestNonce owner remote).1.bind challengeMessage = .error failure) :
    Strands remote signer address wallet ↔ Remote.Derails remote.replies := by
  constructor
  · intro strands
    cases strands with
    | unchallenged _ derails => exact derails
    | unsigned again challenged _ =>
        rw [named] at again
        cases again
        rw [answered] at challenged
        cases challenged
    | untold signed _ =>
        have again := signed.named
        rw [named] at again
        cases again
        have challenged := signed.challenged
        rw [answered] at challenged
        cases challenged
  · exact .unchallenged named

/-- With a message, the first question was not derailed. -/
theorem not_derails_of_challenged
    (challenged : (Remote.backend.requestNonce owner remote).1.bind challengeMessage = .ok message) :
    ¬ Remote.Derails remote.replies := by
  rw [← challenge_strays_iff owner, challenged]
  simp

/-- Without a signature, only the wallet matters. -/
theorem strands_iff_of_unsigned {failure : Failure}
    (named : Wallet.normalize address = .ok owner)
    (challenged : (Remote.backend.requestNonce owner remote).1.bind challengeMessage = .ok message)
    (answered : signatureText (signer message wallet).1 = .error failure) :
    Strands remote signer address wallet ↔ (signer message wallet).1 = .error .interrupted := by
  constructor
  · intro strands
    cases strands with
    | unchallenged _ derails => exact absurd derails (not_derails_of_challenged challenged)
    | unsigned again also breaksOff =>
        rw [named] at again
        cases again
        rw [challenged] at also
        cases also
        exact breaksOff
    | untold signed _ =>
        obtain ⟨again, also, signs⟩ := signed
        rw [named] at again
        cases again
        rw [challenged] at also
        cases also
        rw [answered] at signs
        cases signs
  · exact .unsigned named challenged

/-- With a signature, only the second question matters. -/
theorem strands_iff_of_signed
    (signed : Signed Remote.backend signer address remote wallet owner message signature) :
    Strands remote signer address wallet ↔ Remote.Derails remote.replies.tail := by
  obtain ⟨named, challenged, signs⟩ := signed
  constructor
  · intro strands
    cases strands with
    | unchallenged _ derails => exact absurd derails (not_derails_of_challenged challenged)
    | unsigned again also breaksOff =>
        rw [named] at again
        cases again
        rw [also] at challenged
        cases challenged
        rw [breaksOff] at signs
        cases signs
    | untold _ derails => exact derails
  · exact .untold ⟨named, challenged, signs⟩

/-- A verification strays exactly if it is broken off. -/
theorem verify_strays_iff (cleared : login.store.clear.value = .ok emptied) (remote : Remote)
    (signer : Signer ρ) (address : Option String) (wallet : ρ) :
    Strays (verify Remote.backend signer address (login, remote, wallet)).1 ↔
      Strands remote signer address wallet := by
  have ends := verify_ends cleared Remote.backend signer address remote wallet
  generalize verify Remote.backend signer address (login, remote, wallet) = ended at ends ⊢
  cases ends with
  | misnamed named =>
      refine iff_of_false (by simp [Failure.isOwn]) ?_
      intro strands
      obtain ⟨owner, also⟩ := strands.exists_owner
      rw [named] at also
      cases also
  | @unchallenged owner failure named answered =>
      have strays := challenge_strays_iff owner remote
      rw [answered] at strays
      rw [strands_iff_of_unchallenged named answered, ← strays]
      simp
  | @unsigned owner message failure named challenged answered =>
      have strays := signatureText_strays_iff (signer message wallet).1
      rw [answered] at strays
      rw [strands_iff_of_unsigned named challenged answered, ← strays]
      simp
  | @refused owner message signature failure signed answered =>
      have strays := token_strays_iff owner signature remote
      rw [answered] at strays
      rw [strands_iff_of_signed signed, ← strays]
      simp
  | @opened owner message signature session written signed answered saved =>
      have strays := token_strays_iff owner signature remote
      rw [answered] at strays
      rw [strands_iff_of_signed signed, ← strays]
      simp
  | unkept signed answered refuses =>
      exact absurd (.inr (remote_session_isWritable answered)) refuses

end Strands

/-- A restoration finds no session: none is stored, or the one that is has run out. -/
def FindsNone (store : SessionStore) (clock : Clock) : Prop :=
  store.load.value = .ok none ∨ ∃ session, store.load.value = .ok (some session) ∧
    isExpired session.expiresAt clock = .ok true

/-- A restoration keeps a login settled unless it finds no session beside an error. -/
theorem restore_isSettled_iff (settled : login.IsSettled) (backend : Backend σ) (clock : Clock)
    (state : σ) :
    (restore backend clock (login, state)).2.1.IsSettled ↔
      ¬ (FindsNone login.store clock ∧ login.error ≠ none) := by
  have ends : RestorationEnds backend clock state login _ := restore_ends backend clock state
  generalize restore backend clock (login, state) = ended at ends ⊢
  have seen : login.seen.IsSettled := settled
  -- What finds no session changes the phase alone.
  have anonymous : ∀ {after : Login}, FindsNone login.store clock → after.phase = .anonymous →
      after.error = login.error →
      (after.IsSettled ↔ ¬ (FindsNone login.store clock ∧ login.error ≠ none)) := by
    intro after none phase error
    simp [IsSettled, phase, error, none]
  cases ends with
  | absent loaded => exact anonymous (.inl loaded) rfl rfl
  | expired loaded read cleared => exact anonymous (.inr ⟨_, loaded, read⟩) rfl rfl
  | unreadable loaded =>
      refine iff_of_true settled ?_
      simp [FindsNone, loaded]
  | untimed loaded read =>
      refine iff_of_true settled ?_
      simp [FindsNone, loaded, read]
  | unanswered loaded read answered keeps =>
      refine iff_of_true (failed_isSettled seen _) ?_
      simp [FindsNone, loaded, read]
  | @revoked session message store loaded read revokes cleared =>
      have emptied : (login.seen.emptied store).IsSettled := settled
      refine iff_of_true (failed_isSettled emptied _) ?_
      simp [FindsNone, loaded, read]
  | confirmed loaded read confirms saved =>
      refine iff_of_true (opened_isSettled _ _) ?_
      simp [FindsNone, loaded, read]

theorem logout_isSettled (settled : login.IsSettled) : (logout login).2.IsSettled := by
  cases cleared : login.store.clear.value with
  | error fault =>
      have stuck : forget login = _ := write_of_error cleared
      rw [logout, Attempt.andThen_error stuck]
      exact settled
  | ok emptied =>
      rw [logout, Attempt.andThen_ok (forget_of_clear cleared)]
      simp [IsSettled, enter]

theorem walletChanged_isSettled (settled : login.IsSettled) (address : Option String) :
    (walletChanged address login).2.IsSettled := by
  obtain ⟨after, looked, still⟩ : ∃ after, session login = ((session login).1, after) ∧
      after.IsSettled := by
    refine ⟨(session login).2, rfl, ?_⟩
    unfold session
    split
    · exact settled
    · exact settled
  cases found : (session login).1 with
  | error failure =>
      rw [found] at looked
      rw [walletChanged, Attempt.andThen_error looked]
      exact still
  | ok current =>
      rw [found] at looked
      rw [walletChanged, Attempt.andThen_ok looked]
      cases current with
      | none => exact still
      | some session =>
          dsimp only
          split
          · exact still
          · have left := logout_isSettled still
            cases out : logout after with
            | mk result login =>
                rw [out] at left
                cases result with
                | error failure =>
                    rw [Attempt.andThen_error out]
                    exact left
                | ok value =>
                    rw [Attempt.andThen_ok out]
                    exact left

end Login

/-- A call on a login whose backend is the remote one. -/
inductive RemoteCall (ρ : Type) where
  | verify (signer : Signer ρ) (address : Option String)
  | restore (clock : Clock)
  | logout
  | walletChanged (address : Option String)

namespace RemoteCall

variable {ρ : Type}

/-- The call as one on a login. -/
def onLogin : RemoteCall ρ → LoginCall Remote ρ
  | .verify signer address => .verify Remote.backend signer address
  | .restore clock => .restore Remote.backend clock
  | .logout => .logout
  | .walletChanged address => .walletChanged address

end RemoteCall

namespace LoginRun

open Login

variable {ρ : Type} {run : LoginRun Remote ρ}

/-- The run after some calls to the remote backend. -/
def reached (run : LoginRun Remote ρ) (calls : List (RemoteCall ρ)) : LoginRun Remote ρ :=
  run.after (calls.map RemoteCall.onLogin)

theorem reached_snoc (calls : List (RemoteCall ρ)) (made : RemoteCall ρ) :
    run.reached (calls ++ [made]) = (run.reached calls).call made.onLogin := by
  simp [reached, after]

/-- A call strands a verification, or restores nothing beside the error of an earlier call. -/
inductive Mishap (run : LoginRun Remote ρ) : RemoteCall ρ → Prop where
  | stranded {emptied : SessionStore} {signer : Signer ρ} {address : Option String}
      (cleared : run.login.store.clear.value = .ok emptied)
      (strands : Strands run.state signer address run.wallet) :
      Mishap run (.verify signer address)
  | stale {clock : Clock} (found : FindsNone run.login.store clock)
      (noted : run.login.error ≠ none) : Mishap run (.restore clock)

/-- A call on a settled login leaves it settled unless the call is a mishap. -/
theorem call_isSettled_iff (settled : run.login.IsSettled) (made : RemoteCall ρ) :
    (run.call made.onLogin).login.IsSettled ↔ ¬ Mishap run made := by
  cases made with
  | verify signer address =>
      cases cleared : run.login.store.clear.value with
      | error fault =>
          rw [RemoteCall.onLogin, call, verify_of_clear_error cleared]
          refine iff_of_true settled ?_
          intro mishap
          cases mishap with
          | stranded also strands =>
              rw [cleared] at also
              cases also
      | ok emptied =>
          have kept := verify_isSettled_iff cleared Remote.backend signer address run.state run.wallet
          rw [verify_strays_iff cleared] at kept
          refine kept.trans (not_congr ⟨.stranded cleared, ?_⟩)
          intro mishap
          cases mishap with
          | stranded also strands => exact strands
  | restore clock =>
      refine (restore_isSettled_iff settled Remote.backend clock run.state).trans (not_congr ?_)
      constructor
      · exact fun found => .stale found.1 found.2
      · intro mishap
        cases mishap with
        | stale found noted => exact ⟨found, noted⟩
  | logout =>
      refine iff_of_true (logout_isSettled settled) ?_
      intro mishap
      cases mishap
  | walletChanged address =>
      refine iff_of_true (walletChanged_isSettled settled address) ?_
      intro mishap
      cases mishap

/-- A login is settled after every call exactly if no call is a mishap. -/
theorem settled_unless_mishap (store : SessionStore) (remote : Remote) (wallet : ρ)
    (calls : List (RemoteCall ρ)) :
    let initial : LoginRun Remote ρ := { login := { store }, state := remote, wallet }
    (∀ earlier, earlier <+: calls → (initial.reached earlier).login.IsSettled) ↔
      ∀ earlier made, earlier ++ [made] <+: calls → ¬ Mishap (initial.reached earlier) made := by
  intro initial
  constructor
  · intro settled earlier made within
    have before := settled earlier ((List.prefix_append earlier [made]).trans within)
    have after := settled (earlier ++ [made]) within
    rw [reached_snoc] at after
    exact (call_isSettled_iff before made).mp after
  · intro spared earlier
    -- Each call keeps what the calls before it have left.
    induction earlier using List.reverseRecOn with
    | nil =>
        intro _
        show initial.login.IsSettled
        simp [initial, IsSettled]
    | append_singleton earlier made ih =>
        intro within
        have before := ih ((List.prefix_append earlier [made]).trans within)
        rw [reached_snoc]
        exact (call_isSettled_iff before made).mpr (spared earlier made within)

/-- A restoration without a session leaves the error of a failed verification beside its phase. -/
theorem restoration_keeps_stale_error :
    let remote : Remote :=
      { baseUrl := "http://desk", timeout := .ofInt 15, replies := [.failure "down"] }
    let signer : Signer Unit := fun _ wallet => (.ok (.str "signature"), wallet)
    let initial : LoginRun Remote Unit :=
      { login := { store := ⟨some (.memory []), SessionStore.defaultKey⟩ }, state := remote,
        wallet := () }
    let reached := initial.reached
      [.verify signer (some "0xabababababababababababababababababababab"),
        .restore (.whole 1700000000)]
    reached.login.phase = .anonymous ∧ reached.login.error = some "wallet nonce failed: down" ∧
      ¬ reached.login.IsSettled := by
  decide +kernel

end LoginRun

end OtcDesk
