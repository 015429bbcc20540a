import OtcDesk.CommandLine.Command
import OtcDesk.Config
import OtcDesk.Gateway
import OtcDesk.Login
import OtcDesk.Report.StatusLine
import OtcDesk.Report.Text
import OtcDesk.Sealing
import OtcDesk.Submission
import OtcDesk.Tracker.Polling

namespace OtcDesk.CommandLine

/-- What is typed in: a text, or the keys that break off. -/
inductive Typing where
  | text (text : String)
  | breakOff
  deriving DecidableEq, Repr

/-- The surroundings of a command. -/
structure Shell where
  environment : Table String
  onTerminal : Bool
  encodes : Char → Bool
  clock : Clock
  typing : Typing
  files : Table Bytes
  entropy : Entropy
  replies : List Reply
  requests : List Request := []
  output : String := ""
  errors : String := ""
  remarks : List Warning := []

namespace Shell

/-- A text has only characters that the output can encode. -/
def canPrint (shell : Shell) (text : String) : Bool := text.toList.all shell.encodes

/-- What happens when a text cannot be printed. -/
def unprintable : Fault := ⟨.notEncodable, "the output cannot encode a character"⟩

/-- A text is printed on a line of its own. -/
def print (text : String) : Attempt Shell Unit := fun shell =>
  if shell.canPrint text then (.ok (), { shell with output := shell.output ++ text ++ "\n" })
  else (.error (.fault unprintable), shell)

/-- Texts are printed one below the other. -/
def printAll : List String → Attempt Shell Unit
  | [] => fun shell => (.ok (), shell)
  | text :: rest => (print text).andThen fun _ => printAll rest

/-- A text is printed as an error, on a line of its own. -/
def complain (shell : Shell) (text : String) : Shell :=
  { shell with errors := shell.errors ++ text ++ "\n" }

/-- Remarks are made. -/
def remark (shell : Shell) (remarks : List Warning) : Shell :=
  { shell with remarks := shell.remarks ++ remarks }

/-- The first line of a text without its break, and what follows it. -/
def splitLine (text : String) : String × String :=
  let (line, rest) := text.toList.span (· != '\n')
  (String.ofList line, String.ofList rest.tail)

/-- A wallet outside the desk is shown a message, and its signature is typed in. -/
def prompt : Signer Shell := fun message shell =>
  let told := shell.complain "Sign this message with your wallet (personal_sign):"
  let asked := { told.complain message with output := shell.output ++ "signature> " }
  match asked.typing with
  | .breakOff => (.error .interrupted, asked)
  | .text text =>
    let (line, rest) := splitLine text
    (.ok (.str (Text.strip line)), { asked with typing := .text rest })

/-- The gateway of a command, fresh for each. -/
def gateway (shell : Shell) (config : Config) : Gateway.State :=
  let gateway : Gateway :=
    if config.usesPractice then .practice {}
    else .remote (.ofAddress config.backendUrl config.timeoutSecs shell.replies)
  (gateway, shell.entropy)

/-- The store of a command. -/
def store (shell : Shell) (config : Config) : SessionStore where
  slots := config.sessionPath.map fun path => .file { path := path.text, files := shell.files }
  key := SessionStore.defaultKey

/-- What has become of the gateway is kept. -/
def keepGateway (shell : Shell) (state : Gateway.State) : Shell :=
  match state with
  | (.practice _, entropy) => { shell with entropy }
  | (.remote remote, entropy) =>
    { shell with entropy, replies := remote.replies, requests := shell.requests ++ remote.requests }

/-- What has become of the login is kept. -/
def keepLogin (shell : Shell) (login : Login) : Shell :=
  match login.store.slots with
  | some (.file disk) => { shell.remark login.remarks with files := disk.files }
  | _ => shell.remark login.remarks

/-- What a command prints when it succeeds, and its exit code. -/
def conclude {α : Type} (result : Except Failure α) (text : α → String) (code : α → Nat) :
    Attempt Shell Nat := fun shell =>
  match result with
  | .ok value => (print (text value)).andThen (fun _ shell => (.ok (code value), shell)) shell
  | .error failure => (.error failure, shell)

/-- A wallet logs in. -/
def login (config : Config) (address : String) : Attempt Shell Nat := fun shell =>
  let (result, login, gateway, shell) :=
    Login.verify (Gateway.backend shell.clock) prompt (some address)
      ({ store := shell.store config }, shell.gateway config, shell)
  conclude result (fun login => Report.login (some login)) (fun _ => 0)
    ((shell.keepLogin login).keepGateway gateway)

/-- The stored login is restored and shown. -/
def whoami (config : Config) : Attempt Shell Nat := fun shell =>
  let (result, login, gateway) :=
    Login.restore (Gateway.backend shell.clock) shell.clock
      ({ store := shell.store config }, shell.gateway config)
  conclude result Report.login (fun login => if login.isSome then 0 else 1)
    ((shell.keepLogin login).keepGateway gateway)

/-- The stored login is forgotten. -/
def logout (config : Config) : Attempt Shell Nat := fun shell =>
  let (result, login) := Login.logout { store := shell.store config }
  conclude result (fun _ => "Logged out") (fun _ => 0) (shell.keepLogin login)

/-- The panels of a role are shown. -/
def panels (role : String) : Attempt Shell Nat := fun shell =>
  match Role.recognize? (some role) with
  | some known => conclude (.ok (PanelAccess.ofRole known)) Report.panels (fun _ => 0) shell
  | none => (.ok 2, shell.complain ("Unknown role: " ++ role))

/-- The intent of a party is sealed. -/
def sealParty (keyHex : String) (options : SubmitOptions) (party : PartyOptions) :
    Attempt Shell DealerIntent := fun shell =>
  let (built, entropy) := (options.intent party).build keyHex shell.clock shell.entropy
  (built.map party.dealer, { shell with entropy })

/-- A view is worth a line while a run is followed: it is the state after a poll. -/
def isShown (view : View) : Bool := view.polls ≠ 0 && !view.loading

/-- A view passes unless it is worth a line that is not good. -/
def passes (good : View → Bool) (view : View) : Bool := !isShown view || good view

/-- The line of a view. -/
def line (shell : Shell) (color : String) (view : View) : String :=
  Report.statusLine view (Report.usesColor (some color) shell.onTerminal shell.environment)

/-- The polls that a followed run may make, only one of which comes under an infinite interval. -/
def polls (shell : Shell) (config : Config) : Nat :=
  if config.pollIntervalSecs = .infinite false then 1
  -- each poll uses up a reply or a step of the practice backend's job; one without a reply is the last
  else shell.replies.length + Practice.progression.length + 4

/-- A tracking is watched as long as its lines can be printed. -/
def watch (shell : Shell) (config : Config) (color : String) (tracking : Tracking Gateway.State) :
    Tracking Gateway.State :=
  tracking.watch (Gateway.backend shell.clock) (some (shell.store config))
    (passes fun view => shell.canPrint (shell.line color view)) (shell.polls config)

/-- What the listener of a watched tracking was told. -/
def ending (tracking : Tracking Gateway.State) : Except Failure View :=
  match tracking.listener with
  | some (.told result) => result
  | _ => .error (.fault ⟨.running, "the tracking does not end"⟩)

/-- A run is followed until its tracking ends: a line for every poll, and at last the whole view. -/
def follow (config : Config) (color : String) (tracking : Tracking Gateway.State) :
    Attempt Shell Nat := fun shell =>
  let watched := shell.watch config color tracking
  let report := (ending watched).bind fun view => (Report.tracker view).mapError .fault
  (printAll ((watched.tracker.updates.filter isShown).map (shell.line color))).andThen
    (fun _ => conclude report id fun _ => 0)
    ((shell.remark watched.tracker.remarks).keepGateway watched.backend)

/-- A tracker at work on a gateway, where an interval that is no number counts as none. -/
def tracking (config : Config) (gateway : Gateway.State) : Tracking Gateway.State where
  tracker := { interval := config.pollIntervalSecs.value?.getD 0 }
  backend := gateway

/-- An accepted trade is shown, and followed if that is asked for. -/
def showTrade (config : Config) (options : SubmitOptions) (gateway : Gateway.State)
    (result : OrchestrationResult) : Attempt Shell Nat := fun shell =>
  match print (Report.orchestration result) shell with
  | (.error failure, shell) => (.error failure, shell.keepGateway gateway)
  | (.ok (), shell) =>
    if !options.follows then (.ok 0, shell.keepGateway gateway)
    else
      let idle := tracking config gateway
      match idle.tracker.track result with
      | (true, tracker) => follow config options.color { idle with tracker } shell
      | (false, tracker) =>
        conclude ((Report.tracker tracker.board.view).mapError .fault) id (fun _ => 0)
          (shell.keepGateway gateway)

/-- A refused trade is shown as far as the backend described it. -/
def showRefusal (failure : Failure) : Attempt Shell Nat := fun shell =>
  match failure with
  | .desk (.tradeRejected _ _ _ (some result)) =>
    (print (Report.orchestration result)).andThen (fun _ shell => (.error failure, shell)) shell
  | _ => (.error failure, shell)

/-- Two sealed parties are submitted as one trade. -/
def submitSealed (config : Config) (options : SubmitOptions) (left right : DealerIntent) :
    Attempt Shell Nat := fun shell =>
  let (answer, gateway) :=
    Submission.submit (Gateway.backend shell.clock) (shell.store config) shell.clock
      Backend.defaultProofType left right (shell.gateway config)
  let shell := shell.remark answer.remarks
  match answer.value with
  | .ok result => showTrade config options gateway result shell
  | .error failure => showRefusal failure (shell.keepGateway gateway)

/-- Both sides of a trade are sealed and submitted. -/
def submit (config : Config) (options : SubmitOptions) : Attempt Shell Nat := fun shell =>
  let (keyHex, remarks) := chooseKey config.intentKeyHex
  let sealBoth :=
    (sealParty keyHex options options.left).andThen fun left =>
      (sealParty keyHex options options.right).andThen fun right =>
        submitSealed config options left right
  sealBoth (shell.remark remarks)

/-- The proof job of a run is followed. -/
def track (config : Config) (run color : String) : Attempt Shell Nat := fun shell =>
  let idle := tracking config (shell.gateway config)
  follow config color (idle.onTracker (·.start run)) shell

/-- A command is carried out. -/
def carryOut (config : Config) : Command → Attempt Shell Nat
  | .login address => login config address
  | .whoami => whoami config
  | .logout => logout config
  | .panels role => panels role
  | .submit options => submit config options
  | .track run color => track config run color

/-- A command is run under the settings of the environment, and errors of the desk are printed. -/
def run (command : Command) : Attempt Shell Nat := fun shell =>
  match Config.ofEnvironment shell.environment with
  | .error fault => (.error (.fault fault), shell)
  | .ok config =>
    match carryOut config command shell with
    | (.error (.desk error), shell) => (.ok 1, shell.complain ("Error: " ++ error.message))
    | (.error .interrupted, shell) => (.ok 130, shell)
    | (result, shell) => (result, shell)

end Shell

end OtcDesk.CommandLine
