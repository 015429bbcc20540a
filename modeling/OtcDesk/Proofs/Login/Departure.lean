import OtcDesk.Proofs.Login.Interleaving

namespace OtcDesk

namespace Login

variable {login : Login}

/-- Nobody is authenticated, and the store is empty. -/
structure IsLoggedOut (login : Login) : Prop where
  phase : login.phase ≠ .authenticated
  empty : login.store.IsEmpty

/-- The store is empty once the session has been dropped. -/
theorem forget_empties {done : Unit} {after : Login}
    (forgetting : forget login = (.ok done, after)) : after.store.IsEmpty := by
  rw [forget, write] at forgetting
  cases cleared : login.store.clear.value with
  | error fault => simp [cleared] at forgetting
  | ok emptied =>
      simp only [cleared, Prod.mk.injEq, true_and] at forgetting
      subst forgetting
      exact SessionStore.isEmpty_of_clear cleared

/-- On an empty store, dropping the session goes through. -/
theorem forget_of_isEmpty (empty : login.store.IsEmpty) :
    ∃ after, forget login = (.ok (), after) ∧ after.store.IsEmpty := by
  obtain ⟨emptied, cleared, stays⟩ := empty.clear
  exact ⟨_, write_of_ok cleared, stays⟩

/-- A logout that returns leaves the login logged out. -/
theorem isLoggedOut_of_logout {after : Login} (returns : logout login = (.ok (), after)) :
    after.IsLoggedOut := by
  obtain ⟨_, emptied, forgetting, ended⟩ := Attempt.andThen_eq_ok returns
  cases ended
  have empty : emptied.store.IsEmpty := forget_empties forgetting
  exact ⟨by simp [enter], empty⟩

/-- A change of the wallet that led to a logout leaves the login logged out. -/
theorem isLoggedOut_of_walletChanged {address : Option String} {after : Login}
    (ends : walletChanged address login = (.ok true, after)) : after.IsLoggedOut := by
  obtain ⟨current, seen, _, ended⟩ := Attempt.andThen_eq_ok ends
  cases current with
  | none => cases ended
  | some session =>
      dsimp only at ended
      split at ended
      · cases ended
      · obtain ⟨_, left, logged, same⟩ := Attempt.andThen_eq_ok ended
        cases same
        exact isLoggedOut_of_logout logged

namespace IsLoggedOut

/-- A logout of a login that is logged out changes nothing of that. -/
theorem logout (out : login.IsLoggedOut) : (logout login).2.IsLoggedOut := by
  obtain ⟨emptied, forgetting, empty⟩ := forget_of_isEmpty out.empty
  rw [Login.logout, Attempt.andThen_ok forgetting]
  exact ⟨by simp [enter], empty⟩

/-- A login that is logged out does not care about the wallet. -/
theorem walletChanged (out : login.IsLoggedOut) (address : Option String) :
    Login.walletChanged address login = (.ok false, login) := by
  have looked : session login = (.ok none, login) := by
    rw [session, if_neg out.phase]
  rw [Login.walletChanged, Attempt.andThen_ok looked]

/-- What is settled on a login that is logged out leaves it logged out. -/
theorem settle {α : Type} (out : login.IsLoggedOut) (result : Except Failure α) :
    ∃ after, settle result login = (result, after) ∧ after.IsLoggedOut := by
  obtain ⟨after, settled, store, phase⟩ := settle_keeps result out.phase
  refine ⟨after, settled, phase, ?_⟩
  rw [store]
  exact out.empty

/-- A verification begins on a login that is logged out and leaves it so. -/
theorem beginVerify (out : login.IsLoggedOut) (address : Option String) :
    (beginVerify address login).2.IsLoggedOut := by
  obtain ⟨emptied, cleared, stays⟩ := out.empty.clear
  have begun : (login.verifying emptied).IsLoggedOut :=
    ⟨verifying_unauthenticated login emptied, stays⟩
  obtain ⟨after, settled, still⟩ :=
    begun.settle ((Wallet.normalize address).mapError Failure.desk)
  rw [beginVerify_of_clear cleared, settled]
  exact still

/-- A restoration on a login that is logged out ends at once. -/
theorem beginRestore (out : login.IsLoggedOut) (clock : Clock) :
    ∃ after, beginRestore clock login = (.ok none, after) ∧ after.IsLoggedOut := by
  let loaded := { login with remarks := login.remarks ++ login.store.load.remarks }
  have loading : load login = (.ok none, loaded) := by
    simp only [load, out.empty.load, Except.mapError, loaded]
  refine ⟨{ loaded with phase := .anonymous }, ?_, by simp, out.empty⟩
  rw [Login.beginRestore, Attempt.andThen_ok loading]

/-- A session that is dropped from a login that is logged out leaves it so. -/
theorem drop {α : Type} (out : login.IsLoggedOut) (message : String) :
    ∃ failure after, (drop message : Attempt Login α) login = (.error failure, after) ∧
      after.IsLoggedOut := by
  obtain ⟨emptied, forgetting, empty⟩ := forget_of_isEmpty out.empty
  refine ⟨.desk (.session message), emptied.enter .error (some message), ?_, by simp [enter], empty⟩
  rw [Login.drop, Attempt.andThen_ok forgetting]
  rfl

/-- A session is stored on a login that is logged out, or leaves it as it was. -/
theorem authenticate (out : login.IsLoggedOut) (session : WalletSession) :
    (∃ told after, authenticate session login = (.ok told, after)) ∨
      ∃ failure, authenticate session login = (.error failure, login) := by
  by_cases takes : login.store.Takes session
  · obtain ⟨written, saved, _⟩ := out.empty.save takes
    exact .inl ⟨session.login, _, Attempt.andThen_ok (write_of_ok saved) _⟩
  · exact .inr ⟨_, authenticate_of_not_takes takes⟩

/-- An answer about a token opens a session, or leaves the login logged out. -/
theorem takeToken (out : login.IsLoggedOut) (owner : String)
    (answer : Except Failure VerifiedToken) :
    (∃ told after, takeToken owner answer login = (.ok told, after)) ∨
      ∃ failure after, takeToken owner answer login = (.error failure, after) ∧
        after.IsLoggedOut := by
  obtain ⟨after, settled, still⟩ := out.settle (answer.bind (tokenSession owner))
  rw [Login.takeToken]
  cases opened : answer.bind (tokenSession owner) with
  | error failure =>
      rw [opened] at settled
      exact .inr ⟨failure, after, Attempt.andThen_error settled _, still⟩
  | ok session =>
      rw [opened] at settled
      rw [Attempt.andThen_ok settled]
      rcases still.authenticate session with ⟨told, later, opens⟩ | ⟨failure, kept⟩
      · exact .inl ⟨told, later, opens⟩
      · exact .inr ⟨failure, after, kept, still⟩

/-- An answer about the owner opens the session again, or leaves the login logged out. -/
theorem takeIdentity (out : login.IsLoggedOut) (session : WalletSession)
    (answer : Except Failure WalletIdentity) :
    (∃ told after, takeIdentity session answer login = (.ok told, after)) ∨
      ∃ failure after, takeIdentity session answer login = (.error failure, after) ∧
        after.IsLoggedOut := by
  unfold Login.takeIdentity
  split
  · split
    · exact .inr (out.drop _)
    · exact .inr ⟨_, _, rfl, by simp [enter], out.empty⟩
  · exact .inr ⟨_, _, rfl, out⟩
  · rename_i identity
    split
    · exact .inr (out.drop _)
    · cases Role.recognize? (some identity.role) with
      | none => exact .inr (out.drop _)
      | some role =>
          rcases out.authenticate { session with
            walletAddress := Text.orElse identity.walletAddress session.walletAddress, role } with
            opens | ⟨failure, kept⟩
          · exact .inl opens
          · exact .inr ⟨failure, login, kept, out⟩

end IsLoggedOut

end Login

namespace CallStage

variable {σ : Type} (backend : Backend σ) {login : Login}

end CallStage

namespace LoginTraffic

variable {σ : Type} (backend : Backend σ) {traffic : LoginTraffic σ}

end LoginTraffic

end OtcDesk
