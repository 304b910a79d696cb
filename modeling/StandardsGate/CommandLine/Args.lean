import StandardsGate.Run.Context
import StandardsGate.Text.Decimal

/-!
Command lines.

Main definitions:

* `Command`, `CheckArgs` — what a command line asks for;
* `ArgsError` — why a command line is not carried out: it is wrong, or asks for help;
* `Command.parse` — the command of a command line.
-/

namespace StandardsGate

/-- The options of a check. -/
inductive CheckOption
  | standardsConfig
  | diffFile
  | timeout
  | scriptPath
  | stagingDir
  | eventsLog
deriving DecidableEq, Repr, Inhabited

namespace CheckOption

/-- All options. -/
def all : List CheckOption :=
  [standardsConfig, diffFile, timeout, scriptPath, stagingDir, eventsLog]

/-- The name of an option behind its two dashes. -/
def name : CheckOption → String
  | standardsConfig => "standards-config"
  | diffFile => "diff-file"
  | timeout => "timeout"
  | scriptPath => "script-path"
  | stagingDir => "staging-dir"
  | eventsLog => "events-log"

/-- An option with the placeholder of its value. -/
def usage (o : CheckOption) : String :=
  "--" ++ o.name ++ (if o = timeout then " <SECS>" else " <PATH>")

end CheckOption

/-- What a check is asked for. -/
structure CheckArgs where
  standardsConfig : Option Path
  diffFile : Option Path
  /-- How many seconds a tool may take. -/
  timeout : Nat
  scriptPath : Option Path
  stagingDir : Option Path
  eventsLog : Option Path
deriving DecidableEq, Repr, Inhabited

/-- What a command line asks for. -/
inductive Command
  | checkStaged (args : CheckArgs)
  | checkers
deriving DecidableEq, Repr

/-- The commands that help can be asked about. -/
inductive Topic
  | program
  | checkStaged
  | checkers
  | help
deriving DecidableEq, Repr, Inhabited

/-- Why a text is no number of seconds. -/
inductive NumberFault
  | empty
  | notDigits
  | tooLarge
deriving DecidableEq, Repr, Inhabited

/-- Why a command line is not carried out. -/
inductive ArgsError
  | help (t : Topic) (long : Bool)
  /-- There is no command. -/
  | noCommand
  | version (t : Topic)
  | unknownCommand (t : Topic) (word : String)
  | unknownArgument (t : Topic) (argument : String)
  | missingValue (o : CheckOption)
  | badNumber (value : String) (f : NumberFault)
  | repeated (o : CheckOption)
  | unwantedValue (t : Topic) (option value : String)
deriving DecidableEq, Repr

/-! ### Wording -/

/-- What a command is for. In a long help a text of several paragraphs keeps its full stop. -/
def Topic.about (t : Topic) (long : Bool) : String :=
  match t with
  | program => "Pre-commit guard that runs configurable checkers against the lines a commit adds"
  | checkStaged =>
    "Check the staged changes against the configured standards" ++ (if long then "." else "")
  | checkers => "List the available checker identities and their default extensions"
  | help => "Print this message or the help of the given subcommand(s)"

/-- The name of a command with its version. -/
def Topic.versionName : Topic → String
  | program => "commit-guard"
  | checkStaged => "commit-guard-check-staged"
  | checkers => "commit-guard-checkers"
  | help => "commit-guard-help"

/-- How a command is used. -/
def Topic.usage : Topic → String
  | program => "commit-guard <COMMAND>"
  | checkStaged => "commit-guard check-staged [OPTIONS]"
  | checkers => "commit-guard checkers"
  | help => "commit-guard help [COMMAND]..."

/-- The wording of a wrong number. -/
def NumberFault.message : NumberFault → String
  | empty => "cannot parse integer from empty string"
  | notDigits => "invalid digit found in string"
  | tooLarge => "number too large to fit in target type"

namespace ArgsError

/-- The name of the kind of an error. -/
def kind : ArgsError → String
  | help .. => "DisplayHelp"
  | noCommand => "DisplayHelpOnMissingArgumentOrSubcommand"
  | version _ => "DisplayVersion"
  | unknownCommand .. => "InvalidSubcommand"
  | unknownArgument .. => "UnknownArgument"
  | missingValue _ => "InvalidValue"
  | badNumber .. => "ValueValidation"
  | repeated _ => "ArgumentConflict"
  | unwantedValue .. => "TooManyValues"

/-- Whether what is shown was asked for. -/
def isAnswer : ArgsError → Bool
  | help .. | version _ => true
  | _ => false

/-- The exit code of a process that ends with an error. -/
def exitCode (e : ArgsError) : Nat := if e.isAnswer then 0 else 2

/-- What is said of a command line. -/
def message : ArgsError → String
  | help t long => t.about long
  | noCommand => Topic.program.about false
  | version t => t.versionName ++ " 0.1.0"
  | unknownCommand _ word => "error: unrecognized subcommand '" ++ word ++ "'"
  | unknownArgument _ argument => "error: unexpected argument '" ++ argument ++ "' found"
  | missingValue o =>
    "error: a value is required for '" ++ o.usage ++ "' but none was supplied"
  | badNumber value f =>
    "error: invalid value '" ++ value ++ "' for '" ++ CheckOption.timeout.usage ++ "': " ++
      f.message
  | repeated o => "error: the argument '" ++ o.usage ++ "' cannot be used multiple times"
  | unwantedValue _ option value =>
    "error: unexpected value '" ++ value ++ "' for '" ++ option ++
      "' found; no more were expected"

/-- The first line of what is said. -/
def firstLine (e : ArgsError) : String :=
  String.ofList (e.message.toList.takeWhile (· != '\n'))

/-- The command that an error is about. -/
def topic : ArgsError → Topic
  | help t _ | version t | unknownCommand t _ | unknownArgument t _ | unwantedValue t .. => t
  | noCommand => .program
  | _ => .checkStaged

/-- What is printed of an error: an answer ends with its line, a fault is followed by the usage. -/
def rendered (e : ArgsError) : String :=
  match e with
  | help t _ => e.message ++ "\n\nUsage: " ++ t.usage ++ "\n"
  | noCommand => e.message ++ "\n\nUsage: " ++ e.topic.usage ++ "\n"
  | version _ => e.message ++ "\n"
  | missingValue _ | badNumber .. =>
    e.message ++ "\n\nFor more information, try '--help'.\n"
  | _ =>
    e.message ++ "\n\nUsage: " ++ e.topic.usage ++ "\n\nFor more information, try '--help'.\n"

end ArgsError

/-! ### Values -/

/-- The largest number of seconds. -/
def maxTimeout : Nat := UInt64.size - 1

/-- The number of seconds of a text: digits, perhaps behind a plus sign. -/
def readTimeout (value : String) : Except NumberFault Nat :=
  match value.toList with
  | [] => .error .empty
  | cs =>
    let ds := match cs with
      | '+' :: d :: rest => d :: rest
      | cs => cs
    let n := Text.decimalValue (ds.takeWhile Char.isDigit)
    if maxTimeout < n then .error .tooLarge
    else if ds.all Char.isDigit then .ok n
    else .error .notDigits

/-- What is known of a check so far: its arguments, the options that have been given, and the one
whose value is still to be taken in. -/
structure Progress where
  args : CheckArgs
  given : List CheckOption
  pending : Option (CheckOption × Option String)

/-- A check of which nothing is known. -/
def Progress.start : Progress := ⟨⟨none, none, defaultTimeout, none, none, none⟩, [], none⟩

namespace Progress

/-- Takes in the value of an option. -/
def store (p : Progress) (o : CheckOption) (value : String) : Except ArgsError Progress := do
  if p.given.contains o then throw (.repeated o)
  let p := { p with given := o :: p.given }
  if o = .timeout then
    match readTimeout value with
    | .ok n => return { p with args.timeout := n }
    | .error f => throw (.badNumber value f)
  if value.isEmpty then throw (.missingValue o)
  let path := some (Path.ofString value)
  return match o with
    | .standardsConfig => { p with args.standardsConfig := path }
    | .diffFile => { p with args.diffFile := path }
    | .timeout => p
    | .scriptPath => { p with args.scriptPath := path }
    | .stagingDir => { p with args.stagingDir := path }
    | .eventsLog => { p with args.eventsLog := path }

/-- Takes in the value that is pending. -/
def settle (p : Progress) : Except ArgsError Progress :=
  match p.pending with
  | none => .ok p
  | some (o, none) => .error (.missingValue o)
  | some (o, some value) => ({ p with pending := none }).store o value

/-- Meets an option, with the value attached to it if there is one. -/
def meet (p : Progress) (o : CheckOption) (attached : Option String) :
    Except ArgsError Progress := do
  let p ← p.settle
  match attached with
  | some value => p.store o value
  | none => return { p with pending := some (o, none) }

end Progress

/-! ### Arguments -/

/-- The name and the attached value of an argument that begins with two dashes. -/
def longArgument? (a : List Char) : Option (String × Option String) :=
  match a with
  | '-' :: '-' :: rest =>
    let name := rest.takeWhile (· != '=')
    let value := match rest.drop name.length with
      | _ :: value => some (String.ofList value)
      | [] => none
    some (String.ofList name, value)
  | _ => none

/-- The letters of an argument that begins with one dash. -/
def shortArgument? (a : List Char) : Option (List Char) :=
  match a with
  | '-' :: c :: rest => if c = '-' then none else some (c :: rest)
  | _ => none

/-- The answer to an argument that asks for help or for the version, with the value attached to
it. -/
def answer (t : Topic) (p : Progress) (name : String) (value : Option String) :
    Except ArgsError Progress :=
  match value with
  | some value => .error (.unwantedValue t ("--" ++ name) value)
  | none => do
    discard p.settle
    throw (if name = "help" then .help t true else .version t)

/-- Takes in an argument of two dashes. -/
def readLong (t : Topic) (options : List CheckOption) (p : Progress) (name : String)
    (value : Option String) : Except ArgsError Progress :=
  if name = "help" || name = "version" then answer t p name value
  else match options.find? (·.name == name) with
    | some o => p.meet o value
    | none => .error (.unknownArgument t ("--" ++ name))

/-- Takes in an argument of one dash. -/
def readShort (t : Topic) (options : List CheckOption) (p : Progress) :
    List Char → Except ArgsError Progress
  | 'h' :: _ => do
    discard p.settle
    throw (.help t false)
  | 'V' :: _ => do
    discard p.settle
    throw (.version t)
  | c :: rest =>
    if c = 's' && options.contains .standardsConfig then
      let value := match rest with
        | '=' :: value => some (String.ofList value)
        | [] => none
        | value => some (String.ofList value)
      p.meet .standardsConfig value
    else .error (.unknownArgument t ("-" ++ c.toString))
  | [] => .ok p

/-- Takes in one argument of a command with options. -/
def readArgument (t : Topic) (options : List CheckOption) (p : Progress) (a : String) :
    Except ArgsError Progress :=
  match longArgument? a.toList, shortArgument? a.toList with
  | some (name, value), _ => readLong t options p name value
  | none, some letters => readShort t options p letters
  | none, none =>
    match p.pending with
    | some (o, none) => .ok { p with pending := some (o, some a) }
    | _ => .error (.unknownArgument t a)

/-- Takes in the arguments of a command with options. Behind two dashes alone, none is allowed. -/
def readArguments (t : Topic) (options : List CheckOption) (p : Progress) :
    List String → Except ArgsError CheckArgs
  | [] => (·.args) <$> p.settle
  | "--" :: rest =>
    match rest with
    | [] => (·.args) <$> p.settle
    | a :: _ => .error (.unknownArgument t a)
  | a :: rest => do readArguments t options (← readArgument t options p a) rest

/-- The command of a word. -/
def topicOf? (word : String) : Option Topic :=
  if word = "check-staged" || word = "check" then some .checkStaged
  else if word = "checkers" then some .checkers
  else if word = "help" then some .help
  else none

/-- The help about the command that words lead to. -/
def readHelp (t : Topic) : List String → ArgsError
  | [] => .help t true
  | word :: rest =>
    match t, topicOf? word with
    | .program, some t => readHelp t rest
    | t, _ => .unknownCommand t word

/-- The command of a command line without the name of the program. -/
def Command.parse : List String → Except ArgsError Command
  | [] => .error .noCommand
  | "--" :: rest =>
    match rest with
    | [] => .error .noCommand
    | word :: _ =>
      .error (if (topicOf? word).isSome then .unknownArgument .program word
        else .unknownCommand .program word)
  | word :: rest =>
    match topicOf? word with
    | some .checkStaged =>
      .checkStaged <$> readArguments .checkStaged CheckOption.all Progress.start rest
    | some .checkers => do
      discard (readArguments .checkers [] Progress.start rest)
      return .checkers
    | some _ => .error (readHelp .program rest)
    | none =>
      if (longArgument? word.toList).isNone && (shortArgument? word.toList).isNone then
        .error (.unknownCommand .program word)
      else do
        discard (readArgument .program [] Progress.start word)
        throw .noCommand

end StandardsGate
