import OtcDesk.Submission

namespace OtcDesk

theorem isExpired_of_reads {clock : Clock} {reading : Int} (reads : clock.seconds = .ok reading)
    (expiresAt : Int) : isExpired expiresAt clock = .ok (decide (expiresAt ≤ reading)) := by
  rw [isExpired, reads]
  rfl

/-- Only a clock that has no whole seconds keeps an expiry from being judged. -/
theorem isExpired_eq_error {clock : Clock} {expiresAt : Int} {fault : Fault} :
    isExpired expiresAt clock = .error fault ↔ clock.seconds = .error fault := by
  rw [isExpired]
  cases clock.seconds <;> simp [bind, Except.bind, pure, Except.pure]

/-- An expiry is judged by the whole seconds of the clock. -/
theorem isExpired_eq_ok {clock : Clock} {expiresAt : Int} {expired : Bool} :
    isExpired expiresAt clock = .ok expired ↔
      ∃ now, clock.seconds = .ok now ∧ decide (expiresAt ≤ now) = expired := by
  rw [isExpired]
  cases clock.seconds <;> simp [bind, Except.bind, pure, Except.pure]

/-- A session admits a submission at a moment: it has a token and is not over. -/
structure WalletSession.Admits (session : WalletSession) (now : Int) : Prop where
  token : session.accessToken ≠ ""
  live : now < session.expiresAt

namespace Submission

variable {stored : Option WalletSession} {session : WalletSession} {clock : Clock} {now : Int}

/-- A session that admits a submission lends it its token. -/
theorem token_of_admits (reads : clock.seconds = .ok now) (admits : session.Admits now) :
    token (some session) clock = .ok session.accessToken := by
  have live : ¬ session.expiresAt ≤ now := Int.not_le.mpr admits.live
  simp only [token, String.isEmpty_iff, admits.token, if_false, isExpired_of_reads reads, live,
    decide_false]

/-- Without a session that admits it, a submission is refused. -/
theorem token_of_none_admits (reads : clock.seconds = .ok now)
    (refused : ∀ session, stored = some session → ¬ session.Admits now) :
    ∃ message, token stored clock = .error (.desk (.noSession message)) := by
  cases stored with
  | none => exact ⟨_, rfl⟩
  | some session =>
      unfold token
      dsimp only
      split
      · exact ⟨_, rfl⟩
      · rename_i nonempty
        have given : session.accessToken ≠ "" := mt String.isEmpty_iff.mpr nonempty
        have past : session.expiresAt ≤ now :=
          Int.not_lt.mp fun live => refused session rfl ⟨given, live⟩
        rw [isExpired_of_reads reads, decide_eq_true past]
        exact ⟨_, rfl⟩

variable {σ : Type} {store : SessionStore}

/-- Under a session that admits it, a trade goes out with its token. -/
theorem submit_of_admits (loaded : store.load.value = .ok (some session))
    (reads : clock.seconds = .ok now) (admits : session.Admits now) (backend : Backend σ)
    (proofType : String) (left right : DealerIntent) (state : σ) :
    submit backend store clock proofType left right state =
      let answered := backend.startOrchestration session.accessToken left right proofType state
      ({ value := answered.1.bind outcome, remarks := store.load.remarks }, answered.2) := by
  have goes : (store.load.value.mapError Failure.fault).bind (token · clock) =
      .ok session.accessToken := by
    rw [loaded]
    exact token_of_admits reads admits
  rw [submit, goes]

/-- Without a token, nothing goes out. -/
theorem submit_of_denied {failure : Failure} (loaded : store.load.value = .ok stored)
    (denied : token stored clock = .error failure) (backend : Backend σ) (proofType : String)
    (left right : DealerIntent) (state : σ) :
    submit backend store clock proofType left right state =
      ({ value := .error failure, remarks := store.load.remarks }, state) := by
  have stops : (store.load.value.mapError Failure.fault).bind (token · clock) =
      .error failure := by
    rw [loaded]
    exact denied
  rw [submit, stops]

/-- Without a stored session that admits it, a trade is refused and nothing is asked. -/
theorem submit_of_none_admits (loaded : store.load.value = .ok stored)
    (reads : clock.seconds = .ok now)
    (refused : ∀ session, stored = some session → ¬ session.Admits now) (backend : Backend σ)
    (proofType : String) (left right : DealerIntent) (state : σ) :
    ∃ message, submit backend store clock proofType left right state =
      ({ value := .error (.desk (.noSession message)), remarks := store.load.remarks }, state) := by
  obtain ⟨message, denied⟩ := token_of_none_admits reads refused
  exact ⟨message, submit_of_denied loaded denied ..⟩

end Submission

end OtcDesk
