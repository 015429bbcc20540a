import OtcDesk.Proofs.CommandLine.Following
import OtcDesk.Proofs.CommandLine.Sides
import OtcDesk.Proofs.Desk.Submission
import OtcDesk.Proofs.Session.Store

namespace OtcDesk.CommandLine

open Tracking

/-- The key of a desk: the configured one, or that of the demonstration. -/
theorem chooseKey_fst (keyHex : Option String) :
    (chooseKey keyHex).1 = keyHex.getD demoKeyHex := by
  cases keyHex <;> rfl

namespace Shell

variable (shell : Shell) {config : Config} {kept : Remote} {entropy : Entropy}
  {session : WalletSession} (options : SubmitOptions)

/-- The token of a session is the one that fetches are made under. -/
theorem loadToken_of_load {store : SessionStore} (loaded : store.load.value = .ok (some session)) :
    (loadToken (some store)).value = .ok (some session.accessToken) := by
  rw [loadToken]
  dsimp only
  rw [loaded]
  rfl

/-- An answered trade that can be printed is shown, and its run is followed if that is asked for. -/
theorem showTrade_tracked {result : OrchestrationResult}
    (fits : shell.canPrint (Report.orchestration result) = true) (asked : options.follows = true)
    (tracked : result.shouldTrackProof = true) (gateway : Gateway.State) :
    showTrade config options gateway result shell =
      follow config options.color ((tracking config gateway).happen (.track result))
        { shell with output := shell.output ++ Report.orchestration result ++ "\n" } := by
  rw [showTrade, print_of_fits fits]
  simp [asked, tracked, Tracker.track, Tracking.happen, Tracking.onTracker]

/-- An answered trade is followed by fetches of its proof jobs at most. -/
theorem showTrade_requests (loaded : (shell.store config).load.value = .ok (some session))
    (result : OrchestrationResult) :
    ∃ count, (showTrade config options (.remote kept, entropy) result shell).2.requests =
      shell.requests ++ kept.requests ++
        List.replicate count (kept.jobsRequest result.workflowRunId (some session.accessToken)) := by
  cases fits : shell.canPrint (Report.orchestration result) with
  | false =>
      refine ⟨0, ?_⟩
      rw [showTrade, print_of_unfit fits]
      exact (List.append_nil _).symm
  | true =>
      let shown := { shell with output := shell.output ++ Report.orchestration result ++ "\n" }
      cases asked : options.follows with
      | false =>
          refine ⟨0, ?_⟩
          rw [showTrade, print_of_fits fits]
          simp only [asked]
          exact (List.append_nil _).symm
      | true =>
          cases isTracked : result.shouldTrackProof with
          | true =>
              have activates : (Happening.track result : Happening Gateway.State).activation? =
                  some (some result.workflowRunId) := by
                simp [Happening.activation?, isTracked]
              rw [showTrade_tracked shell options fits asked isTracked]
              exact follow_requests shown options.color activates (loadToken_of_load loaded)
          | false =>
              refine ⟨0, ?_⟩
              rw [showTrade, print_of_fits fits]
              simp only [asked, Tracker.track, isTracked]
              rw [List.replicate_zero, List.append_nil]
              exact (onlyPrints_conclude _ _ _).requests _

/-- The remote backend of a command. -/
def remoteOf (config : Config) : Remote :=
  .ofAddress config.backendUrl config.timeoutSecs shell.replies

theorem gateway_remote (remotely : config.usesPractice = false) :
    shell.gateway config = (.remote (shell.remoteOf config), shell.entropy) := by
  rw [gateway, remotely]
  rfl

/-- The request of a trade. -/
def tradeRequest (config : Config) (token : String) (left right : DealerIntent) :
    Request :=
  (shell.remoteOf config).request .post Errand.trade.path
    (some (Remote.tradeBody left right Backend.defaultProofType)) (some token)

/-- Under a live session, one trade goes out, and then at most fetches of its proof jobs. -/
theorem submitSealed_requests {now : Int} (remotely : config.usesPractice = false)
    (reads : shell.clock.seconds = .ok now)
    (loaded : (shell.store config).load.value = .ok (some session)) (admits : session.Admits now)
    (left right : DealerIntent) :
    ∃ run count, (submitSealed config options left right shell).2.requests =
      shell.requests ++ shell.tradeRequest config session.accessToken left right ::
        List.replicate count ((shell.remoteOf config).jobsRequest run (some session.accessToken)) := by
  let sent := Remote.startOrchestration session.accessToken left right Backend.defaultProofType
    (shell.remoteOf config)
  have made : (shell.remoteOf config).Makes sent.2
      [shell.tradeRequest config session.accessToken left right] :=
    Remote.startOrchestration_makes ..
  have noted : sent.2.requests = [shell.tradeRequest config session.accessToken left right] :=
    made.requests
  have submitted : Submission.submit (Gateway.backend shell.clock) (shell.store config) shell.clock
      Backend.defaultProofType left right (shell.gateway config) =
        ({ value := sent.1.bind Submission.outcome, remarks := (shell.store config).load.remarks },
          (.remote sent.2, shell.entropy)) := by
    rw [Submission.submit_of_admits loaded reads admits, shell.gateway_remote remotely]
    rfl
  rw [submitSealed, submitted]
  dsimp only
  cases answered : sent.1.bind Submission.outcome with
  | error failure =>
      refine ⟨"", 0, ?_⟩
      dsimp only
      rw [(onlyPrints_showRefusal failure).requests, requests_keepGateway, requests_remark, noted]
      rfl
  | ok result =>
      obtain ⟨count, requests⟩ :=
        showTrade_requests (shell.remark (shell.store config).load.remarks) options loaded result
      refine ⟨result.workflowRunId, count, ?_⟩
      dsimp only
      rw [requests, noted, made.jobsRequest, requests_remark, List.append_assoc]
      rfl

/-- Without a stored session that admits it, no trade goes out. -/
theorem submitSealed_refused {now : Int} {stored : Option WalletSession}
    (remotely : config.usesPractice = false) (reads : shell.clock.seconds = .ok now)
    (loaded : (shell.store config).load.value = .ok stored)
    (refused : ∀ session, stored = some session → ¬ session.Admits now)
    (left right : DealerIntent) :
    ∃ refusal, (submitSealed config options left right shell).1 = .error (.desk refusal) ∧
      (submitSealed config options left right shell).2.requests = shell.requests := by
  obtain ⟨message, submitted⟩ := Submission.submit_of_none_admits loaded reads refused
    (Gateway.backend shell.clock) Backend.defaultProofType left right (shell.gateway config)
  rw [submitSealed, submitted]
  refine ⟨.noSession message, rfl, ?_⟩
  rw [shell.gateway_remote remotely]
  exact List.append_nil _

/-- The shell with other randomness. -/
def withEntropy (entropy : Entropy) : Shell := { shell with entropy }

/-- With a key that can be used, a side is sealed with the next randomness. -/
theorem sealParty_of_key {now : Int} {key : Bytes} {keyHex : String}
    (spelled : parseKey keyHex = .ok key) (reads : shell.clock.seconds = .ok now)
    (values : Table String) (side : TradeSide) :
    sealParty keyHex (Command.submitOptions values) (side.options values) shell =
      (.ok (side.dealerFrom values key shell.entropy now),
        shell.withEntropy shell.entropy.afterSealing) := by
  rw [sealParty, PlainIntent.build_eq _ _ spelled reads]
  rfl

/-- With a key that can be used, both sides are sealed before anything is sent. -/
theorem submit_of_key {now : Int} {key : Bytes}
    (spelled : parseKey (config.intentKeyHex.getD demoKeyHex) = .ok key)
    (reads : shell.clock.seconds = .ok now) (values : Table String) :
    submit config (Command.submitOptions values) shell =
      submitSealed config (Command.submitOptions values)
        (TradeSide.left.dealerFrom values key shell.entropy now)
        (TradeSide.right.dealerFrom values key shell.entropy.afterSealing now)
        ((shell.remark (chooseKey config.intentKeyHex).2).withEntropy
          shell.entropy.afterSealing.afterSealing) := by
  rw [← chooseKey_fst] at spelled
  let remarked := shell.remark (chooseKey config.intentKeyHex).2
  let between := remarked.withEntropy shell.entropy.afterSealing
  have first : sealParty (chooseKey config.intentKeyHex).1 (Command.submitOptions values)
      (Command.submitOptions values).left remarked =
        (.ok (TradeSide.left.dealerFrom values key shell.entropy now), between) :=
    remarked.sealParty_of_key spelled reads values .left
  have second : sealParty (chooseKey config.intentKeyHex).1 (Command.submitOptions values)
      (Command.submitOptions values).right between =
        (.ok (TradeSide.right.dealerFrom values key shell.entropy.afterSealing now),
          remarked.withEntropy shell.entropy.afterSealing.afterSealing) :=
    between.sealParty_of_key spelled reads values .right
  unfold submit
  dsimp only
  rw [Attempt.andThen_ok first, Attempt.andThen_ok second]

/-- With a key that cannot be used, nothing is sealed. -/
theorem submit_of_refusal {refusal : DeskError}
    (spelled : parseKey (config.intentKeyHex.getD demoKeyHex) = .error refusal) :
    submit config options shell =
      (.error (.desk refusal), shell.remark (chooseKey config.intentKeyHex).2) := by
  rw [← chooseKey_fst] at spelled
  have stops : sealParty (chooseKey config.intentKeyHex).1 options options.left
      (shell.remark (chooseKey config.intentKeyHex).2) =
        (.error (.desk refusal), shell.remark (chooseKey config.intentKeyHex).2) := by
    rw [sealParty, PlainIntent.build, spelled]
    rfl
  unfold submit
  dsimp only
  rw [Attempt.andThen_error stops]

/-- A run asks for what its command asks for. -/
theorem run_requests (configured : Config.ofEnvironment shell.environment = .ok config)
    (command : Command) :
    (run command shell).2.requests = (carryOut config command shell).2.requests := by
  rw [run, configured]
  dsimp only
  cases carryOut config command shell with
  | mk result after =>
      match result with
      | .ok code => rfl
      | .error (.desk refusal) => rfl
      | .error .interrupted => rfl
      | .error (.fault fault) => rfl

/-- A run whose command ends with an error of the desk ends with the code one. -/
theorem run_of_refusal {command : Command} {refusal : DeskError}
    (configured : Config.ofEnvironment shell.environment = .ok config)
    (refused : (carryOut config command shell).1 = .error (.desk refusal)) :
    (run command shell).1 = .ok 1 := by
  have ended : carryOut config command shell =
      (.error (.desk refusal), (carryOut config command shell).2) := Prod.ext refused rfl
  rw [run, configured]
  dsimp only
  rw [ended]

end Shell

/-- A request submits a trade, with an intent and a subject for each side, the left first. -/
structure IsTrade (values : Table String) (keyHex baseUrl : String) (entropy : Entropy)
    (trade : Request) : Prop where
  method : trade.method = .post
  url : trade.url = baseUrl ++ "/v1/orchestrations/otc"
  body : ∃ left right : Json × Json,
    trade.json = some (.obj [
      ("intents", .arr [left.1, right.1]),
      ("subjects", .arr [left.2, right.2]),
      ("proof_type", .str "settlement")]) ∧
    TradeSide.left.Sends values keyHex (entropy.signingSeeds entropy.seedsDrawn) left.1 left.2 ∧
    TradeSide.right.Sends values keyHex (entropy.signingSeeds (entropy.seedsDrawn + 1)) right.1
      right.2

namespace Shell

variable (shell : Shell) {config : Config} {now : Int}

/-- With a usable key and a live session, one trade goes out, and then only fetches of its jobs. -/
theorem run_submit_sends (configured : Config.ofEnvironment shell.environment = .ok config)
    (remotely : config.usesPractice = false) (reads : shell.clock.seconds = .ok now)
    (fits : ∀ index, (shell.entropy.sealingNonces index).length = 12) {key : Bytes}
    (spelled : parseKey (config.intentKeyHex.getD demoKeyHex) = .ok key) {session : WalletSession}
    (loaded : (shell.store config).load.value = .ok (some session)) (admits : session.Admits now)
    (values : Table String) :
    ∃ trade polls, (run (.submit (Command.submitOptions values)) shell).2.requests =
      shell.requests ++ trade :: polls ∧
      IsTrade values (config.intentKeyHex.getD demoKeyHex)
        (Text.stripEndOf '/' config.backendUrl) shell.entropy trade ∧
      ∀ poll ∈ polls, poll.method = .get := by
  let left := TradeSide.left.dealerFrom values key shell.entropy now
  let right := TradeSide.right.dealerFrom values key shell.entropy.afterSealing now
  let sealing := (shell.remark (chooseKey config.intentKeyHex).2).withEntropy
    shell.entropy.afterSealing.afterSealing
  have ran : (run (.submit (Command.submitOptions values)) shell).2.requests =
      (submitSealed config (Command.submitOptions values) left right sealing).2.requests := by
    rw [run_requests shell configured, carryOut, submit_of_key shell spelled reads values]
  obtain ⟨polled, count, requests⟩ := submitSealed_requests sealing (Command.submitOptions values)
    remotely reads loaded admits left right
  refine ⟨_, _, ran.trans requests, ⟨rfl, rfl, ?_⟩, ?_⟩
  · exact ⟨(left.built.toJson, left.subject), (right.built.toJson, right.subject), rfl,
      TradeSide.left.sends_dealerFrom values shell.entropy spelled (fits _) now,
      TradeSide.right.sends_dealerFrom values shell.entropy.afterSealing spelled (fits _) now⟩
  · intro poll member
    rw [List.eq_of_mem_replicate member]
    rfl

/-- With a key that cannot be used, nothing goes out. -/
theorem run_submit_keyless (configured : Config.ofEnvironment shell.environment = .ok config)
    (options : SubmitOptions) {refusal : DeskError}
    (spelled : parseKey (config.intentKeyHex.getD demoKeyHex) = .error refusal) :
    (run (.submit options) shell).1 = .ok 1 ∧
      (run (.submit options) shell).2.requests = shell.requests := by
  have refused := submit_of_refusal shell options spelled
  constructor
  · apply run_of_refusal shell configured
    rw [carryOut, refused]
  · rw [run_requests shell configured, carryOut, refused]
    rfl

/-- Without a stored session that admits it, nothing goes out. -/
theorem run_submit_refused (configured : Config.ofEnvironment shell.environment = .ok config)
    (remotely : config.usesPractice = false) (reads : shell.clock.seconds = .ok now) {key : Bytes}
    (spelled : parseKey (config.intentKeyHex.getD demoKeyHex) = .ok key)
    {stored : Option WalletSession} (loaded : (shell.store config).load.value = .ok stored)
    (refused : ∀ session, stored = some session → ¬ session.Admits now) (values : Table String) :
    (run (.submit (Command.submitOptions values)) shell).1 = .ok 1 ∧
      (run (.submit (Command.submitOptions values)) shell).2.requests = shell.requests := by
  have submitted := submit_of_key shell spelled reads values
  obtain ⟨refusal, ends, requests⟩ := submitSealed_refused
    ((shell.remark (chooseKey config.intentKeyHex).2).withEntropy
      shell.entropy.afterSealing.afterSealing) (Command.submitOptions values) remotely reads loaded
    refused (TradeSide.left.dealerFrom values key shell.entropy now)
    (TradeSide.right.dealerFrom values key shell.entropy.afterSealing now)
  constructor
  · apply run_of_refusal shell configured
    rw [carryOut, submitted, ends]
  · rw [run_requests shell configured, carryOut, submitted, requests]
    rfl

/-- A session that is over from a second on. -/
def heldSession : WalletSession := ⟨"token", "0xab", .dealer, 1800000000⟩

/-- A disk with a file in which a session is stored. -/
def heldDisk : SlotFile :=
  SlotFile.writeAll { path := "/session.json" } [(SessionStore.defaultKey, heldSession.record.text)]

/-- The environment of a shell with a backend at an address and a key. -/
def heldEnvironment (keyHex : String) : Table String := [
  ("ZKCLEAR_BACKEND_URL", "http://desk"),
  ("ZKCLEAR_INTENT_KEY_HEX", keyHex),
  ("ZKCLEAR_SESSION_PATH", "/session.json")]

/-- A shell in which a session is stored. -/
def heldShell (keyHex : String) (now : Int) : Shell where
  environment := heldEnvironment keyHex
  onTerminal := false
  encodes := (· != Json.halfPair)
  clock := .whole now
  typing := .breakOff
  files := heldDisk.files
  entropy :=
    { uuids := fun index => ⟨index⟩
      signingSeeds := fun _ => List.replicate 32 7
      sealingNonces := fun _ => List.replicate 12 9 }
  replies := []

/-- The settings of such a shell. -/
def heldConfig (keyHex : Option String) : Config where
  backendUrl := "http://desk"
  timeoutSecs := .ofInt 15
  intentKeyHex := keyHex
  sessionPath := some ⟨"/", ["session.json"]⟩
  pollIntervalSecs := .ofInt 3

theorem load_heldShell (keyHex : String) (now : Int) (chosen : Option String) :
    ((heldShell keyHex now).store (heldConfig chosen)).load.value = .ok (some heldSession) := by
  have path : Path.text ⟨"/", ["session.json"]⟩ = heldDisk.path := by decide +kernel
  have kept : ((heldShell keyHex now).store (heldConfig chosen)).slots = some (.file heldDisk) := by
    simp only [store, heldShell, heldConfig, Option.map_some, path]
  have read : heldDisk.readAll.value = .ok _ :=
    SlotFile.readAll_writeAll _ (by simp [Table.keys])
  have holds : ((heldShell keyHex now).store (heldConfig chosen)).Holds (some heldSession) :=
    SessionStore.holds_some kept (SlotFile.get_of_readAll read _) (by decide +kernel)
  exact holds.load

theorem parseKey_demo :
    parseKey demoKeyHex = .ok (List.replicate 2 ([0x00, 0x11, 0x22, 0x33, 0x44, 0x55, 0x66, 0x77,
      0x88, 0x99, 0xaa, 0xbb, 0xcc, 0xdd, 0xee, 0xff] : Bytes)).flatten := by
  decide +kernel

theorem ofEnvironment_demo :
    Config.ofEnvironment (heldEnvironment "") = .ok (heldConfig none) := by decide +kernel

/-- A submission posts one trade for both sides, or nothing without a usable key and session. -/
theorem submission_sends_both_sides {arguments : List String} {options : SubmitOptions}
    (asked : Command.ofArguments arguments = .ok (.submit options))
    (configured : Config.ofEnvironment shell.environment = .ok config)
    (remotely : config.usesPractice = false) (reads : shell.clock.seconds = .ok now)
    (fits : ∀ index, (shell.entropy.sealingNonces index).length = 12) :
    let keyHex := config.intentKeyHex.getD demoKeyHex
    let ran := run (.submit options) shell
    ∃ values, SubmitsWith arguments values ∧
    (∀ key session, parseKey keyHex = .ok key →
      (shell.store config).load.value = .ok (some session) → session.accessToken ≠ "" →
      now < session.expiresAt →
        ∃ trade polls, ran.2.requests = shell.requests ++ trade :: polls ∧
          IsTrade values keyHex (Text.stripEndOf '/' config.backendUrl) shell.entropy trade ∧
          ∀ poll ∈ polls, poll.method = .get) ∧
    (∀ refusal, parseKey keyHex = .error refusal →
      ran.1 = .ok 1 ∧ ran.2.requests = shell.requests) ∧
    ∀ key stored, parseKey keyHex = .ok key → (shell.store config).load.value = .ok stored →
      (∀ session, stored = some session →
        session.accessToken = "" ∨ session.expiresAt ≤ now) →
      ran.1 = .ok 1 ∧ ran.2.requests = shell.requests := by
  dsimp only
  obtain ⟨values, submits, rfl⟩ := Command.submits_of_ofArguments asked
  refine ⟨values, submits, ?sent, ?keyless, ?refused⟩
  case sent =>
    intro key session spelled loaded given live
    exact run_submit_sends shell configured remotely reads fits spelled loaded ⟨given, live⟩ values
  case keyless =>
    intro refusal spelled
    exact run_submit_keyless shell configured _ spelled
  case refused =>
    intro key stored spelled loaded unusable
    apply run_submit_refused shell configured remotely reads spelled loaded
    intro session same admits
    rcases unusable session same with empty | past
    · exact admits.token empty
    · exact absurd past (Int.not_le.mpr admits.live)

/-- One trade goes out while the session is live, and nothing later or under a short key. -/
theorem unfollowed_submission_sends_once :
    let arguments := ["submit", "--left-country=", "--right-side", "buy", "--no-track"]
    let options := Command.submitOptions
      [("--left-country", ""), ("--right-side", "buy"), ("--no-track", "")]
    Command.ofArguments arguments = .ok (.submit options) ∧
    (∃ trade polls, (run (.submit options) (heldShell "" 1700000000)).2.requests = trade :: polls ∧
      trade.method = .post ∧ ∀ poll ∈ polls, poll.method = .get) ∧
    (run (.submit options) (heldShell "" 1800000000)).1 = .ok 1 ∧
    (run (.submit options) (heldShell "00" 1700000000)).2.requests = [] := by
  intro arguments options
  have asked : Command.ofArguments arguments = .ok (.submit options) := by decide +kernel
  have fits : ∀ keyHex now index,
      ((heldShell keyHex now).entropy.sealingNonces index).length = 12 := fun _ _ _ => rfl
  have short : Config.ofEnvironment (heldEnvironment "00") = .ok (heldConfig (some "00")) := by
    decide +kernel
  obtain ⟨_, _, sends, -, -⟩ := submission_sends_both_sides (heldShell "" 1700000000)
    asked ofEnvironment_demo rfl rfl (fits _ _)
  obtain ⟨_, _, -, -, refuses⟩ := submission_sends_both_sides (heldShell "" 1800000000)
    asked ofEnvironment_demo rfl rfl (fits _ _)
  obtain ⟨_, _, -, keyless, -⟩ := submission_sends_both_sides (heldShell "00" 1700000000)
    asked short rfl rfl (fits _ _)
  refine ⟨asked, ?_, ?_, ?_⟩
  · obtain ⟨trade, polls, requests, isTrade, fetches⟩ :=
      sends _ heldSession parseKey_demo (load_heldShell _ _ _) (by decide) (by decide)
    exact ⟨trade, polls, requests, isTrade.method, fetches⟩
  · refine (refuses _ _ parseKey_demo (load_heldShell _ _ _) ?_).1
    intro session same
    obtain rfl := Option.some.inj same
    exact .inr (by decide)
  · exact (keyless _ rfl).2

/-- A country that is not given is not sent as null: it is its default. -/
theorem absent_country_is_sent :
    let options := Command.submitOptions [("--no-track", "")]
    let subject := fun counterparty : String => Json.obj [("counterparty", .obj [
      ("counterparty_id", .str counterparty), ("country", .str "US"), ("wallet_address", .null)])]
    Command.ofArguments ["submit", "--no-track"] = .ok (.submit options) ∧
    ∃ trade polls intents,
      (run (.submit options) (heldShell "" 1700000000)).2.requests = trade :: polls ∧
      trade.json = some (.obj [("intents", intents),
        ("subjects", .arr [subject "DEALER-A-CP", subject "DEALER-B-CP"]),
        ("proof_type", .str "settlement")]) := by
  intro options subject
  have asked : Command.ofArguments ["submit", "--no-track"] = .ok (.submit options) := by
    decide +kernel
  have leftSubject : TradeSide.left.subjectIn [("--no-track", "")] = subject "DEALER-A-CP" := by
    decide +kernel
  have rightSubject : TradeSide.right.subjectIn [("--no-track", "")] = subject "DEALER-B-CP" := by
    decide +kernel
  obtain ⟨trade, polls, requests, isTrade, -⟩ := run_submit_sends (heldShell "" 1700000000)
    ofEnvironment_demo rfl rfl (fun _ => rfl) parseKey_demo (load_heldShell _ _ _) ⟨by decide, by decide⟩
    [("--no-track", "")]
  obtain ⟨left, right, body, sendsLeft, sendsRight⟩ := isTrade.body
  rw [sendsLeft.subject, sendsRight.subject, leftSubject, rightSubject] at body
  exact ⟨asked, trade, polls, _, requests, body⟩

end Shell

end OtcDesk.CommandLine
