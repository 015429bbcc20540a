import OtcDesk.Proofs.Login.Attempts

namespace OtcDesk

namespace Login

variable {login : Login} {held : Option WalletSession}

/-- A login stands on the session of the last result, or on nothing unless after an error. -/
inductive Agrees (login : Login) (last : Option LoginResult) : Prop where
  | standing (session : WalletSession) (stands : login.StandsOn session)
      (told : last = some session.login)
  | vacant (vacant : login.IsVacant)
  | leftOver (failed : login.phase = .error) (session : WalletSession)
      (holds : login.store.Holds (some session)) (token : session.accessToken.isEmpty = false)

variable {last : Option LoginResult}

/-- A login that agrees has a store that can be read, in which every session has a token. -/
theorem Agrees.holds (agrees : login.Agrees last) :
    ∃ held, login.store.Holds held ∧
      ∀ session ∈ held, session.accessToken.isEmpty = false := by
  cases agrees with
  | standing session stands told =>
      refine ⟨some session, stands.2.1, ?_⟩
      intro other member
      obtain rfl := Option.some.inj member
      exact stands.2.2
  | vacant vacant =>
      refine ⟨none, vacant.2, ?_⟩
      intro other member
      cases member
  | leftOver failed session holds token =>
      refine ⟨some session, holds, ?_⟩
      intro other member
      obtain rfl := Option.some.inj member
      exact token

/-- Agreement is a matter of the phase and the store alone. -/
theorem Agrees.of_same {after : Login} (agrees : login.Agrees last)
    (store : after.store = login.store) (phase : after.phase = login.phase) :
    after.Agrees last := by
  cases agrees with
  | standing session stands told =>
      refine .standing session ⟨?_, ?_, stands.2.2⟩ told
      · rw [phase]
        exact stands.1
      · rw [store]
        exact stands.2.1
  | vacant vacant =>
      refine .vacant ⟨?_, ?_⟩
      · rw [phase]
        exact vacant.1
      · rw [store]
        exact vacant.2
  | leftOver failed session holds token =>
      refine .leftOver ?_ session ?_ token
      · rw [phase]
        exact failed
      · rw [store]
        exact holds

/-- The last result, after an attempt that may have brought one. -/
def lastOf (last : Option LoginResult) : Except Failure (Option LoginResult) → Option LoginResult
  | .ok (some told) => some told
  | _ => last

theorem Concludes.agrees {result : Except Failure LoginResult} {after : Login}
    (concludes : Concludes result after) : after.Agrees (lastOf last (result.map some)) := by
  cases result with
  | error failure => exact .vacant concludes
  | ok told =>
      obtain ⟨session, same, stands⟩ := concludes
      exact .standing session stands (congrArg some same)

/-- A restoration ends on a vacant login, fails, or goes on with the session in the store. -/
theorem beginRestore_spec (agrees : login.Agrees last) (holds : login.store.Holds held)
    (clock : Clock) :
    (∃ after, beginRestore clock login = (.ok none, after) ∧ after.IsVacant) ∨
    (∃ failure after, beginRestore clock login = (.error failure, after) ∧ after.Agrees last) ∨
    ∃ session after, beginRestore clock login = (.ok (some session), after) ∧
      held = some session ∧ after.store = login.store ∧ after.phase = login.phase := by
  obtain ⟨loaded, loading, store, phase⟩ := load_spec holds
  rw [beginRestore, Attempt.andThen_ok loading]
  cases held with
  | none =>
      refine .inl ⟨_, rfl, by simp, ?_⟩
      show loaded.store.Holds none
      rw [store]
      exact holds
  | some session =>
      dsimp only
      cases isExpired session.expiresAt clock with
      | error fault => exact .inr (.inl ⟨_, _, rfl, agrees.of_same store phase⟩)
      | ok expired =>
          cases expired with
          | false => exact .inr (.inr ⟨session, loaded, rfl, rfl, store, phase⟩)
          | true =>
              rw [← store] at holds
              obtain ⟨emptied, forgetting, empty, _⟩ := forget_spec holds
              refine .inl ⟨{ emptied with phase := .anonymous }, ?_, by simp, empty⟩
              dsimp only
              rw [Attempt.andThen_ok forgetting]

theorem drop_agrees (holds : login.store.Holds held) (message : String) :
    ((drop message : Attempt Login LoginResult) login).2.Agrees
      (lastOf last (((drop message : Attempt Login LoginResult) login).1.map some)) := by
  obtain ⟨failure, after, dropped, vacant⟩ : ∃ failure after,
      (drop message : Attempt Login LoginResult) login = (.error failure, after) ∧
        after.IsVacant := drop_vacant holds message
  rw [dropped]
  exact .vacant vacant

/-- The answer about the owner of a session settles a login that holds it. -/
theorem takeIdentity_agrees (agrees : login.Agrees last) {session : WalletSession}
    (holds : login.store.Holds (some session)) (token : session.accessToken.isEmpty = false)
    (answer : Except Failure WalletIdentity) :
    (takeIdentity session answer login).2.Agrees
      (lastOf last ((takeIdentity session answer login).1.map some)) := by
  unfold takeIdentity
  split
  · rename_i error
    by_cases unauthorized : isUnauthorized error = true
    · rw [if_pos unauthorized]
      exact drop_agrees holds _
    · rw [if_neg unauthorized]
      exact .leftOver rfl session holds token
  · exact agrees
  · rename_i identity
    by_cases unknown : (!identity.authenticated) = true
    · rw [if_pos unknown]
      exact drop_agrees holds _
    · rw [if_neg unknown]
      cases Role.recognize? (some identity.role) with
      | none => exact drop_agrees holds _
      | some role =>
          have writable : { session with
              walletAddress := Text.orElse identity.walletAddress session.walletAddress,
              role }.record.IsWritable := holds.1 session rfl
          obtain ⟨after, standing, stands⟩ := authenticate_spec holds writable token
          dsimp only
          rw [standing]
          exact .standing _ stands rfl

/-- A restoration keeps the agreement. -/
theorem restore_agrees {σ : Type} (backend : Backend σ) (clock : Clock) (state : σ)
    (agrees : login.Agrees last) :
    (restore backend clock (login, state)).2.1.Agrees
      (lastOf last (restore backend clock (login, state)).1) := by
  obtain ⟨held, holds, tokens⟩ := agrees.holds
  rw [restore]
  rcases beginRestore_spec agrees holds clock with ⟨after, begun, vacant⟩ |
    ⟨failure, after, begun, still⟩ | ⟨session, after, begun, same, store, phase⟩
  · rw [begun]
    exact .vacant vacant
  · rw [begun]
    exact still
  · subst same
    rw [begun]
    rw [← store] at holds
    exact takeIdentity_agrees (agrees.of_same store phase) holds (tokens session rfl) _

/-- A logout leaves the login vacant. -/
theorem logout_vacant (holds : login.store.Holds held) :
    ∃ after, logout login = (.ok (), after) ∧ after.IsVacant := by
  obtain ⟨emptied, forgetting, empty, _⟩ := forget_spec holds
  refine ⟨emptied.enter .anonymous none, ?_, by simp [enter], empty⟩
  rw [logout, Attempt.andThen_ok forgetting]

/-- A change of the connected wallet leaves the login as it was or vacant. -/
theorem walletChanged_agrees (agrees : login.Agrees last) (address : Option String) :
    (walletChanged address login).2.Agrees last := by
  obtain ⟨held, holds, _⟩ := agrees.holds
  rw [walletChanged]
  by_cases standing : login.phase = .authenticated
  · obtain ⟨loaded, loading, store, phase⟩ := load_spec holds
    have looked : session login = (.ok held, loaded) := by
      rw [session, if_pos standing, loading]
    have still := agrees.of_same store phase
    rw [Attempt.andThen_ok looked]
    cases held with
    | none => exact still
    | some session =>
        dsimp only
        split
        · exact still
        · rw [← store] at holds
          obtain ⟨after, logged, vacant⟩ := logout_vacant holds
          rw [Attempt.andThen_ok logged]
          exact .vacant vacant
  · have looked : session login = (.ok none, login) := by
      rw [session, if_neg standing]
    rw [Attempt.andThen_ok looked]
    exact agrees

end Login

/-- A call on a login, which may meet another backend, wallet or clock each time. -/
inductive LoginCall (σ ρ : Type) where
  | verify (backend : Backend σ) (signer : Signer ρ) (address : Option String)
  | restore (backend : Backend σ) (clock : Clock)
  | logout
  | walletChanged (address : Option String)

/-- A login with the states around it and the result that was returned last. -/
structure LoginRun (σ ρ : Type) where
  login : Login
  state : σ
  wallet : ρ
  last : Option LoginResult := none

namespace LoginRun

variable {σ ρ : Type}

/-- The run after a call. -/
def call (run : LoginRun σ ρ) : LoginCall σ ρ → LoginRun σ ρ
  | .verify backend signer address =>
    let (result, login, state, wallet) :=
      Login.verify backend signer address (run.login, run.state, run.wallet)
    { login, state, wallet, last := Login.lastOf run.last (result.map some) }
  | .restore backend clock =>
    let (result, login, state) := Login.restore backend clock (run.login, run.state)
    { run with login, state, last := Login.lastOf run.last result }
  | .logout => { run with login := (Login.logout run.login).2 }
  | .walletChanged address => { run with login := (Login.walletChanged address run.login).2 }

/-- The run after some calls, one after another. -/
def after (run : LoginRun σ ρ) (calls : List (LoginCall σ ρ)) : LoginRun σ ρ :=
  calls.foldl call run

/-- Every call keeps the agreement. -/
theorem call_agrees {run : LoginRun σ ρ} (agrees : run.login.Agrees run.last)
    (made : LoginCall σ ρ) : (run.call made).login.Agrees (run.call made).last := by
  obtain ⟨held, holds, _⟩ := agrees.holds
  cases made with
  | verify backend signer address =>
      exact (Login.verify_concludes backend signer address run.state run.wallet holds).agrees
  | restore backend clock => exact Login.restore_agrees backend clock run.state agrees
  | logout =>
      obtain ⟨after, logged, vacant⟩ := Login.logout_vacant holds
      rw [call, logged]
      exact .vacant vacant
  | walletChanged address => exact Login.walletChanged_agrees agrees address

/-- Any number of calls keeps the agreement. -/
theorem after_agrees (calls : List (LoginCall σ ρ)) :
    ∀ {run : LoginRun σ ρ}, run.login.Agrees run.last →
      (run.after calls).login.Agrees (run.after calls).last := by
  induction calls with
  | nil => exact fun agrees => agrees
  | cons made later ih => exact fun agrees => ih (call_agrees agrees made)

/-- Whatever calls are made, the phase of a login agrees with what its store yields. -/
theorem phase_agrees_with_store (slots : Slots) (key : String)
    (vacant : (slots.get key).value = .ok none) (state : σ) (wallet : ρ)
    (calls : List (LoginCall σ ρ)) :
    let initial : LoginRun σ ρ := { login := { store := ⟨some slots, key⟩ }, state, wallet }
    let reached := initial.after calls
    (reached.login.phase = .authenticated → ∃ session told,
      reached.login.store.load.value = .ok (some session) ∧
      session.accessToken.isEmpty = false ∧ session.role ∈ Role.all ∧
      reached.last = some told ∧ told.walletAddress = session.walletAddress ∧
      told.role = session.role ∧ told.panels = PanelAccess.ofRole session.role) ∧
    (reached.login.phase = .anonymous ∨ reached.login.phase = .verifying →
      reached.login.store.load.value = .ok none) := by
  intro initial reached
  have empty : initial.login.store.Holds none := SessionStore.holds_none rfl vacant
  have start : initial.login.Agrees initial.last := .vacant ⟨by simp [initial], empty⟩
  have agrees : reached.login.Agrees reached.last := after_agrees calls start
  cases agrees with
  | standing session stands told =>
      obtain ⟨phase, holds, token⟩ := stands
      refine ⟨?_, ?_⟩
      · intro _
        have known : session.role ∈ Role.all := by
          cases session.role <;> decide
        exact ⟨session, session.login, holds.load, token, known, told, rfl, rfl, rfl⟩
      · rintro (anonymous | verifying)
        · rw [phase] at anonymous
          cases anonymous
        · rw [phase] at verifying
          cases verifying
  | vacant vacant =>
      refine ⟨?_, fun _ => vacant.2.load⟩
      intro authenticated
      exact absurd authenticated vacant.1
  | leftOver failed session holds token =>
      refine ⟨?_, ?_⟩
      · intro authenticated
        rw [failed] at authenticated
        cases authenticated
      · rintro (anonymous | verifying)
        · rw [failed] at anonymous
          cases anonymous
        · rw [failed] at verifying
          cases verifying

/-- A login over a file that is not there yet, after a verification that succeeds. -/
theorem first_verification_agrees :
    let backend : Backend Unit :=
      { requestNonce := fun wallet state => (.ok ⟨true, wallet, "n", "sign me", 9, none, ""⟩, state)
        verifySignature := fun _ _ state => (.ok ⟨true, "token", "", " Ops ", 9, none, ""⟩, state)
        fetchMe := fun _ state => (.error .interrupted, state)
        startOrchestration := fun _ _ _ _ state => (.error .interrupted, state)
        fetchProofJobs := fun _ _ state => (.error .interrupted, state) }
    let signer : Signer Unit := fun _ wallet => (.ok (.str "signature"), wallet)
    let slots : Slots := .file { path := "session.json" }
    let initial : LoginRun Unit Unit :=
      { login := { store := ⟨some slots, SessionStore.defaultKey⟩ }, state := (), wallet := () }
    let reached := initial.after
      [.logout, .verify backend signer (some "0xABCDEFabcdef0123456789ABCDEFabcdef012345")]
    (slots.get SessionStore.defaultKey).value = .ok none ∧
      reached.login.phase = .authenticated ∧ ∃ session told,
        reached.login.store.load.value = .ok (some session) ∧
        session.accessToken.isEmpty = false ∧ session.role ∈ Role.all ∧
        reached.last = some told ∧ told.walletAddress = session.walletAddress ∧
        told.role = session.role ∧ told.panels = PanelAccess.ofRole session.role :=
  ⟨rfl, rfl, (phase_agrees_with_store _ _ rfl () () _).1 rfl⟩

end LoginRun

end OtcDesk
