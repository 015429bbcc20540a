import OtcDesk.Table
import OtcDesk.Text.Integer

namespace OtcDesk.CommandLine

/-- Why no command is run: help was asked for, or the arguments are misused. -/
inductive Stop where
  | help
  | misuse
  deriving DecidableEq, Repr

/-- What an option does: it asks for help, raises a flag, or takes a value, perhaps one of few. -/
inductive OptionKind where
  | help
  | flag
  | value (choices : Option (List String))
  deriving DecidableEq, Repr

/-- An option, its names, and what it does. -/
structure OptionRule where
  name : String
  short : Option String := none
  kind : OptionKind
  deriving DecidableEq, Repr

namespace OptionRule

/-- The names of an option. -/
def names (rule : OptionRule) : List String := rule.short.toList ++ [rule.name]

/-- The option that every command has. -/
def help : OptionRule := { name := "--help", short := some "-h", kind := .help }

/-- An option with any value. -/
def text (name : String) : OptionRule := { name, kind := .value none }

/-- An option with one of a few values. -/
def choice (name : String) (choices : List String) : OptionRule :=
  { name, kind := .value (some choices) }

/-- An option without a value. -/
def flag (name : String) (short : Option String) : OptionRule := { name, short, kind := .flag }

/-- A value is one that the option takes. -/
def admits (rule : OptionRule) (value : String) : Bool :=
  match rule.kind with
  | .value (some choices) => choices.contains value
  | .value none => true
  | _ => false

end OptionRule

/-- What an argument attaches to the name of an option. -/
inductive Attachment where
  | nothing
  /-- A value follows an equals sign. -/
  | assigned (value : String)
  /-- Letters follow a short name. -/
  | letters (letters : List Char)
  deriving DecidableEq, Repr

/-- What an argument looks like. -/
inductive Token where
  /-- It is no option. -/
  | operand (text : String)
  /-- It is an option, with something attached to its name or not. -/
  | option (rule : OptionRule) (attachment : Attachment)
  /-- It looks like an option, but there is none of its name. -/
  | unknown
  /-- It says that no option follows. -/
  | separator
  deriving DecidableEq, Repr

/-- The option of exactly this name. -/
def named? (rules : List OptionRule) (name : String) : Option OptionRule :=
  rules.find? (·.names.contains name)

/-- The part of an argument before its first equals sign, and what the sign attaches to it. -/
def splitEquals (argument : String) : String × Attachment :=
  let (name, rest) := argument.toList.span (· != '=')
  (String.ofList name, if rest.isEmpty then .nothing else .assigned (String.ofList rest.tail))

/-- The options with a name that begins like an argument. -/
def longCandidates (rules : List OptionRule) (argument : String) : List Token :=
  let (start, attachment) := splitEquals argument
  rules.flatMap fun rule =>
    (rule.names.filter fun name => start.toList.isPrefixOf name.toList).map
      fun _ => .option rule attachment

/-- The options that an argument with one dash may mean. -/
def shortCandidates (rules : List OptionRule) (argument : String) : List Token :=
  rules.flatMap fun rule =>
    rule.names.filterMap fun name =>
      if name.toList = argument.toList.take 2 then
        some (.option rule (.letters (argument.toList.drop 2)))
      else if argument.toList.isPrefixOf name.toList then some (.option rule .nothing)
      else none

/-- The options that an argument may stand for. -/
def candidates (rules : List OptionRule) (argument : String) : List Token :=
  if ['-', '-'].isPrefixOf argument.toList then longCandidates rules argument
  else shortCandidates rules argument

/-- A character is a decimal digit of any script. -/
def isDecimal (c : Char) : Bool := (Text.digitValue? c).isSome

/-- A text is digits, or digits after a point with or without digits before it. -/
def isUnsignedNumber (text : List Char) : Bool :=
  match text.dropWhile isDecimal with
  | [] => !text.isEmpty
  | '.' :: fraction => !fraction.isEmpty && fraction.all isDecimal
  | _ => false

/-- An argument is a number below zero, perhaps with a line break at its end. -/
def isNegativeNumber (argument : String) : Bool :=
  match argument.toList with
  | '-' :: rest => isUnsignedNumber (if rest.getLast? = some '\n' then rest.dropLast else rest)
  | _ => false

/-- An argument that begins like an option but is none: a value or an unknown option. -/
def unnamed (argument : String) : Token :=
  if isNegativeNumber argument || argument.contains ' ' then .operand argument else .unknown

/-- What an argument stands for by the shape of its name, if that is not ambiguous. -/
def classifyCandidate (rules : List OptionRule) (argument : String) : Except Stop Token :=
  match candidates rules argument with
  | [] => .ok (unnamed argument)
  | [token] => .ok token
  | _ => .error .misuse

/-- What an argument stands for. -/
def classify (rules : List OptionRule) (argument : String) : Except Stop Token :=
  if argument.toList.head? ≠ some '-' then .ok (.operand argument)
  else
    match named? rules argument with
    | some rule => .ok (.option rule .nothing)
    | none =>
      if argument.length = 1 then .ok (.operand argument)
      else
        let (name, attachment) := splitEquals argument
        match named? rules name with
        | some rule => .ok (.option rule attachment)
        | none => classifyCandidate rules argument

/-- What every argument stands for, beside the argument itself. -/
def tokenize (rules : List OptionRule) : List String → Except Stop (List (Token × String))
  | [] => .ok []
  | argument :: rest =>
    if argument = "--" then
      .ok ((.separator, argument) :: rest.map fun argument => (.operand argument, argument))
    else do
      let token ← classify rules argument
      return (token, argument) :: (← tokenize rules rest)

/-- What was read from arguments: the values by option, and whether something was left over. -/
structure Reading where
  values : Table String := []
  leftOver : Bool := false
  deriving DecidableEq, Repr

namespace Reading

/-- An option has taken a value. -/
def put (reading : Reading) (rule : OptionRule) (value : String) : Reading :=
  { reading with values := reading.values.put rule.name value }

/-- An option without a value is carried out. -/
def raise (reading : Reading) (rule : OptionRule) : Except Stop Reading :=
  match rule.kind with
  | .help => .error .help
  | .flag => .ok (reading.put rule "")
  | .value _ => .error .misuse

/-- An option with a value is carried out. -/
def assign (reading : Reading) (rule : OptionRule) (value : String) : Except Stop Reading :=
  if rule.admits value then .ok (reading.put rule value) else .error .misuse

/-- The flag of a short name with this letter. -/
def lettered? (rules : List OptionRule) (letter : Char) : Option OptionRule :=
  (named? rules (String.ofList ['-', letter])).filter fun rule =>
    rule.kind = .flag ∨ rule.kind = .help

/-- A flag and those of the letters that follow its short name, up to a letter without a flag. -/
def flags (rules : List OptionRule) :
    OptionRule → List Char → Except Stop (List OptionRule × Bool)
  | rule, [] => .ok ([rule], false)
  | rule, letter :: rest =>
    if letter = '-' then .error .misuse
    else
      match lettered? rules letter with
      | none => .ok ([rule], true)
      | some next =>
        if rest.head? = some '=' then .error .misuse
        else (fun (further, leftOver) => (rule :: further, leftOver)) <$> flags rules next rest

/-- An option with something attached to its name is carried out. -/
def attach (rules : List OptionRule) (reading : Reading) (rule : OptionRule) :
    Attachment → Except Stop Reading
  | .nothing => reading.raise rule
  | .assigned value => reading.assign rule value
  | .letters letters => do
    let (raised, leftOver) ← flags rules rule letters
    let reading ← raised.foldlM raise reading
    return { reading with leftOver := reading.leftOver || leftOver }

end Reading

/-- Arguments are read in order, in front of a command up to the first that is no option. -/
def readTokens (rules : List OptionRule) (beforeCommand : Bool) :
    List (Token × String) → Reading → Except Stop (Reading × List String)
  | [], reading => .ok (reading, [])
  | (.option rule .nothing, _) :: (.operand value, argument) :: rest, reading => do
    match rule.kind with
    | .value _ => readTokens rules beforeCommand rest (← reading.assign rule value)
    | _ =>
      readTokens rules beforeCommand ((.operand value, argument) :: rest) (← reading.raise rule)
  | (.option rule attachment, _) :: rest, reading => do
    readTokens rules beforeCommand rest (← reading.attach rules rule attachment)
  | (.unknown, _) :: rest, reading =>
    readTokens rules beforeCommand rest { reading with leftOver := true }
  | (.operand _, argument) :: rest, reading | (.separator, argument) :: rest, reading =>
    if beforeCommand then .ok (reading, argument :: rest.map (·.2))
    else readTokens rules beforeCommand rest { reading with leftOver := true }

/-- The arguments are read under the rules of a command, or of what stands before one. -/
def readArguments (rules : List OptionRule) (beforeCommand : Bool) (arguments : List String) :
    Except Stop (Reading × List String) := do
  readTokens rules beforeCommand (← tokenize rules arguments) {}

end OtcDesk.CommandLine
