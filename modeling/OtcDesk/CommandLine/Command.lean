import OtcDesk.CommandLine.Options
import OtcDesk.Intent
import OtcDesk.Text.Columns

namespace OtcDesk.CommandLine

/-- What a submission says of one of its parties. -/
structure PartyOptions where
  counterparty : String
  side : String
  country : String
  wallet : Option String
  deriving DecidableEq, Repr

/-- What a submission says of the trade. -/
structure SubmitOptions where
  left : PartyOptions
  right : PartyOptions
  assetPair : String
  amount : String
  limitPrice : String
  settlementCurrency : String
  follows : Bool
  color : String
  deriving DecidableEq, Repr

/-- A command of the desk. -/
inductive Command where
  | login (address : String)
  | whoami
  | logout
  | panels (role : String)
  | submit (options : SubmitOptions)
  | track (run color : String)
  deriving DecidableEq, Repr

namespace Command

/-- The options before a command. -/
def commonRules : List OptionRule := [.help, .flag "--verbose" (some "-v")]

/-- The option that chooses colors. -/
def colorRule : OptionRule := .choice "--color" ["auto", "always", "never"]

/-- The options of one party. -/
def partyRules (party : String) : List OptionRule := [
  .text ("--" ++ party ++ "-counterparty"),
  .choice ("--" ++ party ++ "-side") ["buy", "sell"],
  .text ("--" ++ party ++ "-country"),
  .text ("--" ++ party ++ "-wallet")]

/-- The options of a submission. -/
def submitRules : List OptionRule :=
  .help :: partyRules "left" ++ partyRules "right" ++ [
    .text "--asset-pair",
    .text "--amount",
    .text "--limit-price",
    .text "--settlement-currency",
    .flag "--no-track" none,
    colorRule]

/-- A value that was given, or its default. -/
def value (values : Table String) (name default : String) : String :=
  (values.get? name).getD default

/-- A value that has to be given. -/
def required (values : Table String) (name : String) : Except Stop String :=
  match values.get? name with
  | some value => .ok value
  | none => .error .misuse

/-- The options given for one party. -/
def partyOptions (values : Table String) (party counterparty side : String) : PartyOptions where
  counterparty := value values ("--" ++ party ++ "-counterparty") counterparty
  side := value values ("--" ++ party ++ "-side") side
  country := value values ("--" ++ party ++ "-country") "US"
  wallet := values.get? ("--" ++ party ++ "-wallet")

/-- The options given for a submission. -/
def submitOptions (values : Table String) : SubmitOptions where
  left := partyOptions values "left" "DEALER-A-CP" "buy"
  right := partyOptions values "right" "DEALER-B-CP" "sell"
  assetPair := value values "--asset-pair" "ETH/USDC"
  amount := value values "--amount" "100000"
  limitPrice := value values "--limit-price" "2800"
  settlementCurrency := value values "--settlement-currency" "USDC"
  follows := (values.get? "--no-track").isNone
  color := value values "--color" "auto"

/-- The options of the command of a name, and how it is made of their values. -/
def grammar? : String → Option (List OptionRule × (Table String → Except Stop Command))
  | "login" =>
    some ([.help, .text "--address"], fun values => login <$> required values "--address")
  | "whoami" => some ([.help], fun _ => .ok whoami)
  | "logout" => some ([.help], fun _ => .ok logout)
  | "panels" => some ([.help, .text "--role"], fun values => panels <$> required values "--role")
  | "submit" => some (submitRules, fun values => .ok (submit (submitOptions values)))
  | "track" =>
    some ([.help, .text "--run-id", colorRule], fun values =>
      (track · (value values "--color" "auto")) <$> required values "--run-id")
  | _ => none

/-- The command that arguments ask for, if nothing is left over. -/
def ofArguments (arguments : List String) : Except Stop Command := do
  match ← readArguments commonRules true arguments with
  | (_, []) => .error .misuse
  | (common, name :: rest) =>
    match grammar? name with
    | none => .error .misuse
    | some (rules, make) =>
      let (reading, _) ← readArguments rules false rest
      let command ← make reading.values
      if common.leftOver || reading.leftOver then .error .misuse else .ok command

end Command

/-- The intent of a party. -/
def SubmitOptions.intent (options : SubmitOptions) (party : PartyOptions) : PlainIntent where
  side := party.side
  assetPair := options.assetPair
  amount := options.amount
  limitPrice := options.limitPrice
  settlementCurrency := options.settlementCurrency
  counterpartyId := party.counterparty

/-- A party with its sealed intent, where what is empty is left out. -/
def PartyOptions.dealer (party : PartyOptions) (built : BuiltIntent) : DealerIntent where
  built := built
  counterpartyId := party.counterparty
  country := Text.given? (some party.country)
  walletAddress := Text.given? party.wallet

end OtcDesk.CommandLine
