import OtcDesk.Proofs.Desk.Submission
import OtcDesk.Proofs.Login.Gates

namespace OtcDesk

/-- What a restoration makes of a store. -/
inductive StoreFate where
  | untouched
  | cleared
  | refreshed (session : WalletSession)
  deriving DecidableEq, Repr

namespace StoreFate

/-- A store has become another as its fate says. -/
def Befalls (before after : SessionStore) : StoreFate → Prop
  | untouched => after = before
  | cleared => before.clear.value = .ok after ∧ after.Holds none
  | refreshed session => (before.save session).value = .ok after ∧ after.Holds (some session)

/-- The session that is left of a stored one. -/
def leaves (stored : Option WalletSession) : StoreFate → Option WalletSession
  | untouched => stored
  | cleared => none
  | refreshed session => some session

/-- What is left is what the store loads from then on. -/
theorem Befalls.load {before after : SessionStore} {fate : StoreFate}
    {stored : Option WalletSession} (befalls : fate.Befalls before after)
    (loaded : before.load.value = .ok stored) : after.load.value = .ok (fate.leaves stored) := by
  cases fate with
  | untouched =>
      rw [show after = before from befalls]
      exact loaded
  | cleared => exact befalls.2.load
  | refreshed session => exact befalls.2.load

/-- A store that holds a session and could be cleared is cleared. -/
theorem befalls_cleared {before after : SessionStore} {session : WalletSession}
    (found : before.load.value = .ok (some session)) (clears : before.clear.value = .ok after) :
    cleared.Befalls before after := by
  obtain ⟨emptied, also, empties⟩ := (SessionStore.isReadable_of_load found).clear
  obtain rfl : after = emptied := Except.ok.inj (clears.symm.trans also)
  exact ⟨clears, empties (SessionStore.slots_ne_none_of_load found)⟩

/-- A store that holds a session and in which another could be saved is refreshed with it. -/
theorem befalls_refreshed {before after : SessionStore} {session renewed : WalletSession}
    (found : before.load.value = .ok (some session))
    (saves : (before.save renewed).value = .ok after) :
    (refreshed renewed).Befalls before after := by
  obtain ⟨written, also, holds⟩ :=
    (SessionStore.isReadable_of_load found).save (SessionStore.takes_of_save saves)
  obtain rfl : after = written := Except.ok.inj (saves.symm.trans also)
  exact ⟨saves, holds (SessionStore.slots_ne_none_of_load found)⟩

end StoreFate

namespace Login

variable {σ : Type} {login : Login} {stored : Option WalletSession} {session : WalletSession}
  {clock : Clock}

/-- A stored session with the owner and the role that an answer names. -/
def confirmed (session : WalletSession) (identity : WalletIdentity) (role : Role) : WalletSession where
  accessToken := session.accessToken
  walletAddress := Text.orElse identity.walletAddress session.walletAddress
  role := role
  expiresAt := session.expiresAt

/-- Confirming a session twice by one answer is confirming it once. -/
theorem confirmed_confirmed (session : WalletSession) (identity : WalletIdentity) (role : Role) :
    confirmed (confirmed session identity role) identity role = confirmed session identity role := by
  have wallet : Text.orElse identity.walletAddress
      (Text.orElse identity.walletAddress session.walletAddress) =
        Text.orElse identity.walletAddress session.walletAddress := by
    simp only [Text.orElse]
    split <;> rfl
  simp only [confirmed, wallet]

/-- What an answer about the owner of a session makes of it, and what the restoration brings. -/
inductive AnswerFate (session : WalletSession) :
    Except Failure WalletIdentity → StoreFate → Except Failure (Option LoginResult) → Prop where
  | failed {failure : Failure} (harmless : ∀ error, failure = .desk error →
      error.rejectedStatus? ≠ some 401 ∧ error.rejectedStatus? ≠ some 403) :
      AnswerFate session (.error failure) .untouched (.error failure)
  | unauthorized {error : DeskError}
      (rejected : error.rejectedStatus? = some 401 ∨ error.rejectedStatus? = some 403) :
      AnswerFate session (.error (.desk error)) .cleared (.error (.desk (.session error.message)))
  | unauthenticated {identity : WalletIdentity} (unknown : identity.authenticated = false) :
      AnswerFate session (.ok identity) .cleared (.error (.desk (.session
        (Text.orElse identity.reason "wallet session is not authenticated"))))
  | unrecognized {identity : WalletIdentity} (known : identity.authenticated = true)
      (role : Role.recognize? (some identity.role) = none) :
      AnswerFate session (.ok identity) .cleared
        (.error (.desk (.session ("unsupported role from backend: " ++ identity.role))))
  | confirmed {identity : WalletIdentity} {role : Role} (known : identity.authenticated = true)
      (recognized : Role.recognize? (some identity.role) = some role) :
      AnswerFate session (.ok identity) (.refreshed (Login.confirmed session identity role))
        (.ok (some (Login.confirmed session identity role).login))

/-- There is a stored session, and the whole seconds of the clock are below its expiry. -/
def Unexpired (stored : Option WalletSession) (clock : Clock) (session : WalletSession) : Prop :=
  stored = some session ∧ ∃ now, clock.seconds = .ok now ∧ now < session.expiresAt

/-- A stored session that was not found to be over is not over. -/
theorem unexpired_of_isExpired (held : stored = some session)
    (read : isExpired session.expiresAt clock = .ok false) : Unexpired stored clock session := by
  obtain ⟨now, reads, early⟩ := isExpired_eq_ok.mp read
  exact ⟨held, now, reads, Int.not_le.mp (of_decide_eq_false early)⟩

/-- What a restoration makes of a stored session, and what it brings. -/
inductive Fated (stored : Option WalletSession) (clock : Clock)
    (answer : String → Except Failure WalletIdentity) :
    StoreFate → Except Failure (Option LoginResult) → Prop where
  | absent (nothing : stored = none) : Fated stored clock answer .untouched (.ok none)
  | untimed {session : WalletSession} {fault : Fault} (held : stored = some session)
      (unread : clock.seconds = .error fault) :
      Fated stored clock answer .untouched (.error (.fault fault))
  | expired {session : WalletSession} {now : Int} (held : stored = some session)
      (reads : clock.seconds = .ok now) (past : session.expiresAt ≤ now) :
      Fated stored clock answer .cleared (.ok none)
  | answered {session : WalletSession} {fate : StoreFate}
      {result : Except Failure (Option LoginResult)} (live : Unexpired stored clock session)
      (told : AnswerFate session (answer session.accessToken) fate result) :
      Fated stored clock answer fate result

variable {answer : String → Except Failure WalletIdentity} {fate other : StoreFate}
  {result brought : Except Failure (Option LoginResult)}

/-- An answer decides what becomes of a session. -/
theorem AnswerFate.unique {given : Except Failure WalletIdentity}
    (first : AnswerFate session given fate result) (second : AnswerFate session given other brought) :
    other = fate ∧ brought = result := by
  cases first with
  | failed harmless =>
      cases second with
      | failed _ => exact ⟨rfl, rfl⟩
      | unauthorized rejected =>
          obtain ⟨known, allowed⟩ := harmless _ rfl
          exact absurd rejected (not_or.mpr ⟨known, allowed⟩)
  | unauthorized rejected =>
      cases second with
      | failed harmless =>
          obtain ⟨known, allowed⟩ := harmless _ rfl
          exact absurd rejected (not_or.mpr ⟨known, allowed⟩)
      | unauthorized _ => exact ⟨rfl, rfl⟩
  | unauthenticated unknown =>
      cases second with
      | unauthenticated _ => exact ⟨rfl, rfl⟩
      | unrecognized known _ => simp [unknown] at known
      | confirmed known _ => simp [unknown] at known
  | unrecognized known unrecognized =>
      cases second with
      | unauthenticated unknown => simp [unknown] at known
      | unrecognized _ _ => exact ⟨rfl, rfl⟩
      | confirmed _ recognized => simp [recognized] at unrecognized
  | confirmed known recognized =>
      cases second with
      | unauthenticated unknown => simp [unknown] at known
      | unrecognized _ unrecognized => simp [recognized] at unrecognized
      | confirmed _ also =>
          rw [recognized] at also
          cases also
          exact ⟨rfl, rfl⟩

/-- The cases exclude each other: there is one fate, and one result. -/
theorem Fated.unique (first : Fated stored clock answer fate result)
    (second : Fated stored clock answer other brought) : other = fate ∧ brought = result := by
  cases first with
  | absent nothing =>
      subst nothing
      cases second with
      | absent _ => exact ⟨rfl, rfl⟩
      | untimed held _ => cases held
      | expired held _ _ => cases held
      | answered live _ => cases live.1
  | untimed held unread =>
      subst held
      cases second with
      | absent nothing => cases nothing
      | untimed _ also =>
          rw [unread] at also
          cases also
          exact ⟨rfl, rfl⟩
      | expired _ reads _ => simp [unread] at reads
      | answered live _ =>
          obtain ⟨_, now, reads, _⟩ := live
          simp [unread] at reads
  | expired held reads past =>
      subst held
      cases second with
      | absent nothing => cases nothing
      | untimed _ unread => simp [reads] at unread
      | expired _ _ _ => exact ⟨rfl, rfl⟩
      | answered live _ =>
          obtain ⟨⟨⟩, now, also, early⟩ := live
          rw [reads] at also
          cases also
          exact absurd past (Int.not_le.mpr early)
  | answered live told =>
      obtain ⟨rfl, now, reads, early⟩ := live
      cases second with
      | absent nothing => cases nothing
      | untimed _ unread => simp [reads] at unread
      | expired held also past =>
          cases held
          rw [reads] at also
          cases also
          exact absurd past (Int.not_le.mpr early)
      | answered live also =>
          cases live.1
          exact told.unique also

/-- The fate hangs on the answer for the stored token alone. -/
theorem Fated.of_same {another : String → Except Failure WalletIdentity}
    (fated : Fated stored clock answer fate result)
    (same : ∀ session, stored = some session →
      another session.accessToken = answer session.accessToken) :
    Fated stored clock another fate result := by
  cases fated with
  | absent nothing => exact .absent nothing
  | untimed held unread => exact .untimed held unread
  | expired held reads past => exact .expired held reads past
  | answered live told =>
      refine .answered live ?_
      rw [same _ live.1]
      exact told

/-- A session that was refreshed is refreshed again as it is. -/
theorem Fated.refreshed (fated : Fated stored clock answer (.refreshed session) result) :
    Fated (some session) clock answer (.refreshed session) result := by
  cases fated with
  | answered live told =>
      generalize answered : answer _ = given at told
      cases told with
      | @confirmed identity role known recognized =>
          rename_i held
          have again : AnswerFate (confirmed held identity role) (.ok identity)
              (.refreshed (confirmed (confirmed held identity role) identity role)) _ :=
            .confirmed known recognized
          rw [confirmed_confirmed, ← answered] at again
          exact .answered ⟨rfl, live.2⟩ again

/-- A second restoration with the same answer leaves the store as the first has left it. -/
theorem Fated.again {next : StoreFate} {told : Except Failure (Option LoginResult)}
    {another : String → Except Failure WalletIdentity}
    (first : Fated stored clock answer fate result)
    (same : ∀ session, stored = some session →
      another session.accessToken = answer session.accessToken)
    (second : Fated (fate.leaves stored) clock another next told) :
    next = .untouched ∨ ∃ session, fate = .refreshed session ∧ next = .refreshed session := by
  cases fate with
  | untouched => exact .inl ((first.of_same same).unique second).1
  | cleared => exact .inl ((Fated.absent rfl).unique second).1
  | refreshed session =>
      exact .inr ⟨session, rfl, ((first.of_same same).refreshed.unique second).1⟩

/-- The phase that a login stands in once a restoration has brought a result. -/
def phaseAfter (before : LoginPhase) : Except Failure (Option LoginResult) → LoginPhase
  | .ok none => .anonymous
  | .ok (some _) => .authenticated
  | .error (.desk _) => .error
  | .error (.fault _) | .error .interrupted => before

theorem failed_phase (login : Login) (failure : Failure) :
    (login.failed failure).phase = phaseAfter login.phase (.error failure) := by
  cases failure <;> rfl

/-- What counts as a rejection of the token. -/
theorem isUnauthorized_iff {error : DeskError} : isUnauthorized error = true ↔
    error.rejectedStatus? = some 401 ∨ error.rejectedStatus? = some 403 := by
  simp [isUnauthorized]

theorem AnswerFate.of_revokes {given : Except Failure WalletIdentity} {message : String}
    (revokes : Revokes given message) :
    AnswerFate session given .cleared (.error (.desk (.session message))) := by
  cases revokes with
  | unauthorized rejected => exact .unauthorized (isUnauthorized_iff.mp rejected)
  | unauthenticated unknown => exact .unauthenticated unknown
  | unrecognized known role => exact .unrecognized known role

theorem AnswerFate.of_confirms {given : Except Failure WalletIdentity} {renewed : WalletSession}
    (confirms : Confirms session given renewed) :
    AnswerFate session given (.refreshed renewed) (.ok (some renewed.login)) := by
  obtain ⟨⟨identity, rfl, known, recognized, wallet⟩, token, expiry⟩ := confirms
  have same : renewed = Login.confirmed session identity renewed.role := by
    cases renewed
    simp_all [Login.confirmed]
  rw [same]
  exact .confirmed known recognized

/-- Every restoration brings the result and does to the store what its case says. -/
theorem restore_fated (loaded : login.store.load.value = .ok stored) (backend : Backend σ)
    (clock : Clock) (state : σ) :
    let ended := restore backend clock (login, state)
    ∃ fate, Fated stored clock (fun token => (backend.fetchMe token state).1) fate ended.1 ∧
      fate.Befalls login.store ended.2.1.store ∧
      ended.2.1.phase = phaseAfter login.phase ended.1 := by
  intro ended
  have ends : RestorationEnds backend clock state login ended := restore_ends backend clock state
  generalize ended = ended at ends ⊢
  have held : ∀ found, login.store.load.value = .ok found → stored = found :=
    fun found also => Except.ok.inj (loaded.symm.trans also)
  cases ends with
  | unreadable broken =>
      rw [loaded] at broken
      cases broken
  | absent found => exact ⟨.untouched, .absent (held _ found), rfl, rfl⟩
  | untimed found read =>
      exact ⟨.untouched, .untimed (held _ found) (isExpired_eq_error.mp read), rfl, rfl⟩
  | expired found read cleared =>
      obtain ⟨now, reads, past⟩ := isExpired_eq_ok.mp read
      exact ⟨.cleared, .expired (held _ found) reads (of_decide_eq_true past),
        StoreFate.befalls_cleared found cleared, rfl⟩
  | unanswered found read answered keeps =>
      refine ⟨.untouched, .answered (unexpired_of_isExpired (held _ found) read) ?_,
        failed_store _, failed_phase _ _⟩
      rw [answered]
      refine .failed fun error same => ?_
      have known := keeps error same
      rwa [Bool.eq_false_iff, ne_eq, isUnauthorized_iff, not_or] at known
  | revoked found read revokes cleared =>
      exact ⟨.cleared, .answered (unexpired_of_isExpired (held _ found) read) (.of_revokes revokes),
        StoreFate.befalls_cleared found cleared, rfl⟩
  | @confirmed _ renewed _ found read confirms saved =>
      exact ⟨.refreshed renewed,
        .answered (unexpired_of_isExpired (held _ found) read) (.of_confirms confirms),
        StoreFate.befalls_refreshed found saved, rfl⟩

/-- A restoration does not depend on its being noted. -/
theorem restore_noting (backend : Backend σ) (clock : Clock) (state : σ) (asked : List Question) :
    let plain := restore backend clock (login, state)
    let noted := restore backend.noting clock (login, (state, asked))
    plain = (noted.1, noted.2.1, noted.2.2.1) := by
  dsimp only [restore, Backend.noting, Question.noted]
  rcases beginRestore clock login with ⟨failure | _ | session, begun⟩
  · rfl
  · rfl
  · rfl

/-- A restoration asks for the owner of the stored token, if the session is not over. -/
theorem restore_asks (loaded : login.store.load.value = .ok stored) (backend : Backend σ)
    (clock : Clock) (state : σ) :
    AskedOnce (restore backend.noting clock (login, (state, []))).2.2.2 (Unexpired stored clock)
      fun session => .owner session.accessToken := by
  have held : ∀ found, login.store.load.value = .ok found → stored = found :=
    fun found also => Except.ok.inj (loaded.symm.trans also)
  have asks : ∀ session, login.store.load.value = .ok (some session) →
      isExpired session.expiresAt clock = .ok false →
      AskedOnce [.owner session.accessToken] (Unexpired stored clock)
        fun session => .owner session.accessToken := by
    intro session found read
    have live := unexpired_of_isExpired (held _ found) read
    exact askedOnce_singleton (fun session => .owner session.accessToken) live
      fun other also => Option.some.inj (also.1.symm.trans live.1)
  have ends : RestorationEnds backend.noting clock (state, []) login _ :=
    restore_ends backend.noting clock (state, [])
  generalize restore backend.noting clock (login, (state, [])) = ended at ends ⊢
  cases ends with
  | unreadable broken =>
      rw [loaded] at broken
      cases broken
  | absent found =>
      apply askedOnce_nil
      rintro session ⟨kept, _⟩
      rw [held _ found] at kept
      cases kept
  | untimed found read =>
      apply askedOnce_nil
      rintro session ⟨_, now, reads, _⟩
      rw [isExpired_eq_error.mp read] at reads
      cases reads
  | expired found read cleared =>
      apply askedOnce_nil
      rintro session ⟨same, now, reads, early⟩
      rw [held _ found] at same
      cases same
      obtain ⟨also, again, past⟩ := isExpired_eq_ok.mp read
      rw [reads] at again
      cases again
      exact absurd (of_decide_eq_true past) (Int.not_le.mpr early)
  | unanswered found read => exact asks _ found read
  | revoked found read => exact asks _ found read
  | confirmed found read => exact asks _ found read

/-- A restoration leaves, clears or refreshes the store, and brings what goes with it. -/
theorem restoration_never_half_applies (loaded : login.store.load.value = .ok stored)
    (backend : Backend σ) (clock : Clock) (state : σ) :
    let noted := restore backend.noting clock (login, (state, []))
    let result := noted.1
    let after := noted.2.1
    let asked := noted.2.2.2
    let answer := fun token => (backend.fetchMe token state).1
    restore backend clock (login, state) = (result, after, noted.2.2.1) ∧
    (∃ fate, Fated stored clock answer fate result ∧ fate.Befalls login.store after.store ∧
      after.store.load.value = .ok (fate.leaves stored) ∧
      ∀ other brought, Fated stored clock answer other brought → other = fate ∧ brought = result) ∧
    after.phase = phaseAfter login.phase result ∧
    AskedOnce asked (Unexpired stored clock) (fun session => .owner session.accessToken) ∧
    ∀ {τ : Type} (renewed : Backend τ) (later : τ) (again : Login), again.store = after.store →
      (∀ session, stored = some session →
        (renewed.fetchMe session.accessToken later).1 = answer session.accessToken) →
      (restore renewed clock (again, later)).2.1.store = after.store := by
  intro noted result after asked answer
  have plain : restore backend clock (login, state) = (result, after, noted.2.2.1) :=
    restore_noting backend clock state []
  have ended := restore_fated loaded backend clock state
  rw [plain] at ended
  obtain ⟨fate, fated, befalls, phase⟩ := ended
  refine ⟨plain, ⟨fate, fated, befalls, befalls.load loaded, fun other brought also =>
    fated.unique also⟩, phase, restore_asks loaded backend clock state, ?_⟩
  intro τ renewed later again sameStore sameAnswer
  have reloaded : again.store.load.value = .ok (fate.leaves stored) := by
    rw [sameStore]
    exact befalls.load loaded
  obtain ⟨next, nextFated, nextBefalls, _⟩ := restore_fated reloaded renewed clock later
  rw [← sameStore]
  rcases fated.again sameAnswer nextFated with rfl | ⟨session, rfl, rfl⟩
  · exact nextBefalls
  · have saved := SessionStore.save_again befalls.1
    rw [← sameStore] at saved
    exact (Except.ok.inj (saved.symm.trans nextBefalls.1)).symm

/-- A restoration refreshes a session, drops it if forbidden, and leaves it if the server fails. -/
theorem last_second_restored :
    let session : WalletSession := ⟨"token", "0xowner", .dealer, 1700003600⟩
    let slots : Slots := .memory [(SessionStore.defaultKey, session.record.text)]
    let login : Login := { store := ⟨some slots, SessionStore.defaultKey⟩ }
    let telling : Except Failure WalletIdentity → Backend Unit := fun answer =>
      { requestNonce := fun _ state => (.error .interrupted, state)
        verifySignature := fun _ _ state => (.error .interrupted, state)
        fetchMe := fun _ state => (answer, state)
        startOrchestration := fun _ _ _ _ state => (.error .interrupted, state)
        fetchProofJobs := fun _ _ state => (.error .interrupted, state) }
    let clock : Clock := .whole 1700003599
    let after := fun answer =>
      (restore (telling answer).noting clock (login, ((), []))).2.1.store
    let rejected := fun status : Int =>
      Except.error (Failure.desk (.rejection .null "no access" (some status)))
    login.store.load.value = .ok (some session) ∧
      (after (.ok ⟨true, "", " OPS ", none, ""⟩)).load.value =
        .ok (some { session with role := .ops }) ∧
      (after (rejected 403)).load.value = .ok none ∧ after (rejected 500) = login.store ∧
      (restore (telling (rejected 500)) clock (login, ())).2.1.store = login.store := by
  intro session slots login telling clock after rejected
  have loaded : login.store.load.value = .ok (some session) :=
    (SessionStore.holds_some rfl rfl (by decide +kernel)).load
  have live : Unexpired (some session) clock session := ⟨rfl, _, rfl, by decide⟩
  have recognized : Role.recognize? (some " OPS ") = some .ops := by decide +kernel
  obtain ⟨-, ⟨_, -, -, opened, unique⟩, -⟩ := restoration_never_half_applies loaded
    (telling (.ok ⟨true, "", " OPS ", none, ""⟩)) clock ()
  obtain ⟨rfl, -⟩ := unique _ _ (.answered live (.confirmed rfl recognized))
  obtain ⟨-, ⟨_, -, -, dropped, unique⟩, -⟩ := restoration_never_half_applies loaded
    (telling (rejected 403)) clock ()
  obtain ⟨rfl, -⟩ := unique _ _ (.answered live (.unauthorized (.inr rfl)))
  obtain ⟨-, ⟨_, -, left, -, unique⟩, -, -, again⟩ := restoration_never_half_applies loaded
    (telling (rejected 500)) clock ()
  obtain ⟨rfl, -⟩ := unique _ _ (.answered live (.failed (by rintro _ ⟨⟩; decide)))
  exact ⟨loaded, opened, dropped, left,
    (again (telling (rejected 500)) () login left.symm fun _ _ => rfl).trans left⟩

end Login

end OtcDesk
