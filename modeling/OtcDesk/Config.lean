import OtcDesk.Config.Path
import OtcDesk.Number.Reader
import OtcDesk.Text.Case

namespace OtcDesk

/-- The settings of the desk. -/
structure Config where
  backendUrl : String
  timeoutSecs : Double
  intentKeyHex : Option String
  sessionPath : Option Path
  pollIntervalSecs : Double
  deriving DecidableEq, Repr

namespace Config

/-- The backend that is used when none is named. -/
def defaultBackendUrl : String := "http://127.0.0.1:8080"

/-- Where the session is kept when no path is named. -/
def defaultSessionPath : Path := ⟨"", ["~", ".zkclear", "session.json"]⟩

/-- How long a request may take by default. -/
def defaultTimeoutSecs : Double := .ofInt 15

/-- How long the tracker waits between polls by default. -/
def defaultPollIntervalSecs : Double := .ofInt 3

/-- A setting without the blanks around it. -/
def setting (environment : Table String) (name : String) : String :=
  Text.strip ((environment.get? name).getD "")

/-- A setting that is a number. -/
def numberSetting (environment : Table String) (name : String) (default : Double) : Double :=
  (Double.ofText? (setting environment name)).getD default

/-- The path of the session, unless a setting says that there is none. -/
def sessionPathSetting (environment : Table String) : Option Path :=
  let raw := setting environment "ZKCLEAR_SESSION_PATH"
  if Text.lower raw = "none" then none
  else if raw.isEmpty then some defaultSessionPath
  else some (.ofText raw)

/-- The settings of an environment. -/
def ofEnvironment (environment : Table String) : Except Fault Config := do
  let sessionPath ← (sessionPathSetting environment).mapM (Path.expandUser environment)
  return {
    backendUrl :=
      Text.orElse (Text.stripEndOf '/' (setting environment "ZKCLEAR_BACKEND_URL"))
        defaultBackendUrl
    timeoutSecs := numberSetting environment "ZKCLEAR_TIMEOUT_SECS" defaultTimeoutSecs
    intentKeyHex := Text.given? (some (setting environment "ZKCLEAR_INTENT_KEY_HEX"))
    sessionPath
    pollIntervalSecs :=
      numberSetting environment "ZKCLEAR_POLL_INTERVAL_SECS" defaultPollIntervalSecs }

/-- The backend's name asks for the practice backend instead of a remote one. -/
def usesPractice (config : Config) : Bool := config.backendUrl == "fake"

end Config

end OtcDesk
