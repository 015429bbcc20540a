import OtcDesk.CommandLine.Shell
import Std.Time.DateTime.Timestamp

namespace OtcDesk.CommandLine

/-- The settings that commands look at. -/
def settingNames : List String := [
  "HOME", "NO_COLOR", "ZKCLEAR_BACKEND_URL", "ZKCLEAR_INTENT_KEY_HEX", "ZKCLEAR_SESSION_PATH",
  "ZKCLEAR_TIMEOUT_SECS", "ZKCLEAR_POLL_INTERVAL_SECS"]

/-- The settings that the environment gives. -/
def gatherSettings : IO (Table String) :=
  settingNames.filterMapM fun name => do
    return (← IO.getEnv name).map (name, ·)

/-- The bytes of a file, if it can be read. -/
def readFile? (path : String) : IO (Option Bytes) := do
  try
    return some (← IO.FS.readBinFile path).toList
  catch _ => return none

/-- The session file among the settings, if there is one. -/
def sessionPath? (settings : Table String) : Option Path :=
  match Config.ofEnvironment settings with
  | .ok config => config.sessionPath
  | .error _ => none

/-- The session file with its content. -/
def gatherFiles (settings : Table String) : IO (Table Bytes) := do
  match sessionPath? settings with
  | none => return []
  | some path =>
    return ((← readFile? path.text).map fun bytes => (path.text, bytes)).toList

/-- A stretch of bytes. -/
def stretch (bytes : Bytes) (length index : Nat) : Bytes :=
  (bytes.drop (length * index)).take length

/-- Randomness for one command. -/
def gatherEntropy : IO Entropy := do
  let forIds := (← IO.getRandomBytes 512).toList
  let forSeeds := (← IO.getRandomBytes 256).toList
  let forNonces := (← IO.getRandomBytes 128).toList
  return {
    uuids := fun index => .ofRandom (stretch forIds 16 index)
    signingSeeds := stretch forSeeds 32
    sealingNonces := stretch forNonces 12 }

/-- The surroundings of a command, where nothing is typed in yet. -/
def gatherShell : IO Shell := do
  let settings ← gatherSettings
  return {
    environment := settings
    onTerminal := ← (← IO.getStdout).isTty
    encodes := (· != Json.halfPair)
    clock := .whole (← Std.Time.Timestamp.now).toSecondsSinceUnixEpoch.val
    typing := .breakOff
    files := ← gatherFiles settings
    entropy := ← gatherEntropy
    replies := [.failure "the network is out of reach"] }

/-- What was printed since an earlier state is shown. -/
def showSince (earlier later : Shell) : IO Unit := do
  let fresh (before after : String) : String := String.ofList (after.toList.drop before.length)
  for remark in later.remarks.drop earlier.remarks.length do
    IO.eprintln ("WARNING " ++ remark.text)
  IO.eprint (fresh earlier.errors later.errors)
  IO.print (fresh earlier.output later.output)
  (← IO.getStdout).flush

/-- The session file is stored if it has changed. -/
def storeFiles (earlier later : Shell) : IO Unit := do
  let some path := sessionPath? later.environment | return
  let some bytes := later.files.get? path.text | return
  if earlier.files.get? path.text ≠ some bytes then
    IO.FS.createDirAll (Path.text { path with parts := path.parts.dropLast })
    IO.FS.writeBinFile path.text ⟨bytes.toArray⟩

/-- What a command has left behind is shown and stored, and its result gives the exit code. -/
def finish (start seen : Shell) (outcome : Except Failure Nat × Shell) : IO UInt32 := do
  let (result, finished) := outcome
  showSince seen finished
  storeFiles start finished
  match result with
  | .ok code => return UInt32.ofNat code
  | .error failure =>
    IO.eprintln failure.text
    return 1

/-- A command is run, and run again with what is typed in if it breaks off for want of that. -/
def runCommand (command : Command) : IO UInt32 := do
  let start ← gatherShell
  match Shell.run command start with
  | (.ok 130, asked) =>
    showSince start asked
    let typed ← (← IO.getStdin).getLine
    finish start asked (Shell.run command { start with typing := .text typed })
  | outcome => finish start start outcome

end OtcDesk.CommandLine

/-- The command that the arguments ask for is run. -/
def main (arguments : List String) : IO UInt32 :=
  match OtcDesk.CommandLine.Command.ofArguments arguments with
  | .ok command => OtcDesk.CommandLine.runCommand command
  | .error .help => return 0
  | .error .misuse => do
    IO.eprintln "usage: login | whoami | logout | panels | submit | track"
    return 2
