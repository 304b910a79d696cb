import StandardsGate.Host.Invocation
import StandardsGate.Shell.Arithmetic
import StandardsGate.Shell.Matching
import StandardsGate.Shell.Reader
import StandardsGate.Shell.Tools

/-!
Running shell scripts.

A script runs on a file tree. What it writes goes to buffers or files, and the only thing that takes
time is sleeping. The parts of a pipeline run one after the other.

Main definitions:

* `Shell.Environment`, `Shell.State` — what a script sees and what it changes;
* `Shell.runScript` — the outcome of a script.
-/

namespace StandardsGate.Shell

/-- Where a stream leads to. -/
inductive Sink
  | buffer (n : Nat)
  | file (l : Location)
  | nowhere
deriving Repr, Inhabited

/-- What a script works with. -/
structure State where
  files : FileTree
  directory : Location
  bindings : List (List Char × List Char)
  arguments : List (List Char)
  /-- The name under which the script runs. -/
  self : List Char
  processId : Nat
  status : Nat
  input : Bytes
  sinks : List (Nat × Sink)
  /-- What went into buffers, the latest part first. -/
  buffers : List (Nat × Bytes)
  nextBuffer : Nat
  /-- Milliseconds that have passed. -/
  clock : Nat
  limit : Option Nat
deriving Inhabited

/-- Why a script stops where it stands. -/
inductive Stop
  | exited (status : Nat)
  | killed
  | timedOut
  /-- A loop is left. -/
  | leave
  /-- A loop goes on with its next turn. -/
  | again
deriving Repr, Inhabited

/-- Running with a state, until something stops it. -/
abbrev Running := ExceptT Stop (StateM State)

/-! ### State -/

/-- Sets the status of the last command. -/
def setStatus (n : Nat) : Running Unit := modify fun s => { s with status := n }

/-- Writes to a numbered stream. -/
def write (stream : Nat) (bs : Bytes) : Running Unit := modify fun s =>
  match s.sinks.lookup stream with
  | some (.buffer n) => { s with buffers := (n, bs) :: s.buffers }
  | some (.file l) =>
    match s.files.get? l with
    | some (.file content runnable) =>
      { s with files := s.files.put l (.file (content ++ bs) runnable) }
    | _ => s
  | _ => s

/-- Writes a message of the shell to the error stream. -/
def complain (line : Nat) (text : String) : Running Unit := do
  let s ← get
  write 2 (bytesOf (s.self ++ (": " ++ toString line ++ ": " ++ text ++ "\n").toList))

/-- What a buffer holds. -/
def State.buffered (s : State) (n : Nat) : Bytes :=
  ((s.buffers.filter (·.1 == n)).reverse.map (·.2)).flatten

/-- Lets time pass. -/
def pass (millis : Nat) : Running Unit := do
  modify fun s => { s with clock := s.clock + millis }
  let s ← get
  match s.limit with
  | some limit => if limit ≤ s.clock then throw .timedOut
  | none => return

/-- The decimal digits of a number. -/
def digits (n : Nat) : List Char := (toString n).toList

/-- The value of a parameter; `none` if it is not set. -/
def State.value? (s : State) (name : List Char) : Option (List Char) :=
  match name with
  | ['#'] => some (digits s.arguments.length)
  | ['?'] => some (digits s.status)
  | ['$'] => some (digits s.processId)
  | ['@'] | ['*'] => if s.arguments.isEmpty then none else some (Text.joinWith [' '] s.arguments)
  | ['!'] | ['-'] => some []
  | ['0'] => some s.self
  | [c] => if c.isDigit then s.arguments[c.toNat - '0'.toNat - 1]? else s.bindings.lookup name
  | _ => s.bindings.lookup name

/-- Sets a variable. -/
def setVariable (name value : List Char) : Running Unit := modify fun s =>
  { s with bindings := setEntry name value s.bindings }

/-- The value of a variable as a number. -/
def State.number (s : State) (name : List Char) : Int :=
  (((s.value? name).map String.ofList).bind String.toInt?).getD 0

/-! ### Fields -/

/-- Fields under construction: the finished ones, the last first, and the one that is open. -/
structure Fields where
  done : List (List PatternChar)
  current : Option (List PatternChar)

/-- Adds characters to the open field, or opens one. -/
def Fields.add (f : Fields) (cs : List Char) (quoted : Bool) : Fields :=
  { f with current := some (f.current.getD [] ++ cs.map fun c => (c, quoted)) }

/-- Closes the open field. -/
def Fields.close (f : Fields) : Fields :=
  match f.current with
  | some cs => ⟨cs :: f.done, none⟩
  | none => f

/-- Whether a character separates fields. -/
def separates (c : Char) : Bool := c == ' ' || c == '\t' || c == '\n'

/-- Adds a value that is divided into fields. -/
def Fields.addDivided (f : Fields) (cs : List Char) : Fields :=
  cs.foldl (fun f c => if separates c then f.close else f.add [c] false) f

/-- Adds a value. -/
def Fields.addValue (f : Fields) (quoted divided : Bool) (cs : List Char) : Fields :=
  if quoted || !divided then f.add cs quoted else f.addDivided cs

/-- Adds values of their own, each but the first beginning a field. -/
def Fields.addAll (f : Fields) (quoted : Bool) : List (List Char) → Fields
  | [] => f
  | [v] => f.addValue quoted true v
  | v :: rest => ((f.addValue quoted true v).close).addAll quoted rest

/-- The characters of fields. -/
def Fields.texts (f : Fields) : List (List Char) := f.close.done.reverse.map fun cs => cs.map (·.1)

/-! ### Conditions -/

/-- The entry at a path from the working directory. -/
def State.entry? (s : State) (p : List Char) : Option Entry :=
  match s.files.find s.directory ⟨p⟩ with
  | .ok (_, e) => some e
  | .error _ => none

/-- What a condition of one sign says of a text. -/
def State.holds (s : State) (sign arg : List Char) : Option Bool :=
  match String.ofList sign with
  | "-n" => some (!arg.isEmpty)
  | "-z" => some arg.isEmpty
  | "-e" => some (s.entry? arg).isSome
  | "-f" => some (match s.entry? arg with | some (.file ..) => true | _ => false)
  | "-d" => some (s.entry? arg == some .directory)
  | "-r" | "-w" => some (s.entry? arg).isSome
  | "-x" => some (match s.entry? arg with
    | some (.file _ runnable) => runnable
    | some _ => true
    | none => false)
  | "-s" => some (match s.entry? arg with
    | some (.file content _) => !content.isEmpty
    | some _ => true
    | none => false)
  | "-h" | "-L" => some (match s.files.walk false s.directory ⟨arg⟩ with
    | .ok (.taken _ (.link _)) => true
    | _ => false)
  | _ => none

/-- What a condition between two texts says. -/
def compare (a sign b : List Char) : Option Bool :=
  let x := (String.ofList a).toInt?
  let y := (String.ofList b).toInt?
  let numbers (p : Int → Int → Bool) : Option Bool := do return p (← x) (← y)
  match String.ofList sign with
  | "=" | "==" => some (a == b)
  | "!=" => some (a != b)
  | "-eq" => numbers (· == ·)
  | "-ne" => numbers (· != ·)
  | "-lt" => numbers fun m n => m < n
  | "-le" => numbers fun m n => m ≤ n
  | "-gt" => numbers fun m n => n < m
  | "-ge" => numbers fun m n => n ≤ m
  | _ => none

/-- The status of two conditions joined by a sign. -/
def junction (first : Bool) (sign : List Char) (second : Unit → Nat) : Nat :=
  if sign = ['-', 'a'] then (if first then second () else 1)
  else if sign = ['-', 'o'] then (if first then 0 else second ())
  else 2

/-- The status of a condition: 0 if it holds, 1 if it does not, 2 if it is none. -/
def State.test (s : State) : List (List Char) → Nat
  | [] => 1
  | [['!']] => 0
  | ['!'] :: rest =>
    match s.test rest with
    | 0 => 1
    | 1 => 0
    | n => n
  | [a] => if a.isEmpty then 1 else 0
  | [sign, a] =>
    match s.holds sign a with
    | some b => if b then 0 else 1
    | none => 2
  | [a, sign, b] =>
    match compare a sign b with
    | some r => if r then 0 else 1
    | none => 2
  | a :: sign :: b :: next :: rest =>
    match compare a sign b with
    | some r => junction r next fun _ => s.test rest
    | none =>
      match s.holds a sign with
      | some r => junction r b fun _ => s.test (next :: rest)
      | none => 2
termination_by args => args.length

/-! ### Programs -/

/-- The directories that hold the usual tools. -/
def toolDirectories : List (List Char) := ["/bin".toList, "/usr/bin".toList]

/-- The tools that are always there. -/
def tools : List String :=
  ["cat", "head", "tail", "sleep", "mkdir", "touch", "rm", "wc", "basename", "dirname", "true",
   "false", "echo", "printf", "pwd", "test", "env", "sh"]

/-- The commands of the shell itself. -/
def builtins : List String :=
  [":", "true", "false", "echo", "printf", "exit", "return", "cd", "pwd", "set", "shift", "test",
   "[", "read", "export", "unset", "local", "kill", "exec", "break", "continue", "umask", "wait",
   "trap", "command", "eval"]

/-- What a command's name leads to. -/
inductive Found
  | tool (name : String)
  | file (p : Path)
  | notRunnable
  | missing

/-- The program in one directory. -/
def State.programIn (s : State) (directory name : List Char) : Found :=
  let p := (Path.mk directory).join ⟨name⟩
  match s.files.find s.directory p with
  | .ok (_, .file _ true) => .file p
  | .ok _ => .notRunnable
  | .error _ =>
    if toolDirectories.contains directory && tools.contains (String.ofList name) then
      .tool (String.ofList name)
    else .missing

/-- The first program that some directories give. -/
def State.search (s : State) (name : List Char) (found : Found) : List (List Char) → Found
  | [] => found
  | d :: rest =>
    match s.programIn d name with
    | .missing => s.search name found rest
    | .notRunnable => s.search name .notRunnable rest
    | found => found

/-- The program that a command's name leads to. -/
def State.program (s : State) (name : List Char) : Found :=
  if name.contains '/' then s.programIn (directoryName name) (baseName name)
  else s.search name .missing
    (Text.splitOn ':' ((s.bindings.lookup "PATH".toList).getD []))

/-- The lines, words and bytes of some bytes. -/
def counts (bs : Bytes) : Nat × Nat × Nat :=
  let isBlank (b : UInt8) : Bool := b == 32 || (9 ≤ b && b ≤ 13)
  let words := bs.foldl (fun (acc : Nat × Bool) b =>
    if isBlank b then (acc.1, false) else (if acc.2 then acc.1 else acc.1 + 1, true)) (0, false)
  (bs.count 10, words.1, bs.length)

/-- Reads the files that arguments name, or the input if there are none. -/
def gather (tool : String) (names : List (List Char)) : Running (Bytes × Nat) := do
  if names.isEmpty then
    let s ← get
    set { s with input := [] }
    return (s.input, 0)
  names.foldlM (fun (bs, status) name => do
    let s ← get
    if name = ['-'] then
      set { s with input := [] }
      return (bs ++ s.input, status)
    match s.files.read s.directory ⟨name⟩ with
    | .ok content => return (bs ++ content, status)
    | .error e =>
      let reason := match e with
        | .os e => e.wording
        | e => e.message
      write 2 (bytesOf (tool ++ ": " ++ String.ofList name ++ ": " ++ reason ++ "\n").toList)
      return (bs, 1)) ([], 0)

/-- The number of lines that `head` and `tail` are asked for, and the other arguments. -/
def lineCount : List (List Char) → Nat × List (List Char)
  | ['-', 'n'] :: n :: rest => ((String.ofList n).toNat?.getD 10, rest)
  | ('-' :: 'n' :: n) :: rest => ((String.ofList n).toNat?.getD 10, rest)
  | ('-' :: c :: n) :: rest =>
    if c.isDigit then ((String.ofList (c :: n)).toNat?.getD 10, rest)
    else (10, ('-' :: c :: n) :: rest)
  | args => (10, args)

/-- Runs one of the usual tools. -/
def runTool (name : String) (args : List (List Char)) : Running Unit := do
  let names := args.filter fun a => a.head? != some '-' || a.length == 1
  match name with
  | "cat" =>
    let (bs, status) ← gather name names
    write 1 bs
    setStatus status
  | "head" =>
    let (n, names) := lineCount args
    let (bs, status) ← gather name names
    write 1 (headBytes n bs)
    setStatus status
  | "tail" =>
    let (n, names) := lineCount args
    let (bs, status) ← gather name names
    write 1 (tailBytes n bs)
    setStatus status
  | "wc" =>
    let (bs, status) ← gather name names
    let (l, w, c) := counts bs
    let has (flag : Char) : Bool := args.any fun a => a.head? == some '-' && a.contains flag
    let n := if has 'l' then l else if has 'w' then w else c
    let suffix := match names with
      | [n] => ' ' :: n
      | _ => []
    write 1 (bytesOf ((toString n).toList ++ suffix ++ ['\n']))
    setStatus status
  | "sleep" =>
    match args.mapM durationMillis? with
    | some millis =>
      pass (millis.foldr (· + ·) 0)
      setStatus 0
    | none => setStatus 1
  | "mkdir" =>
    let all := args.any fun a => a.head? == some '-' && a.contains 'p'
    for n in names do
      let s ← get
      let (files, result) := if all then s.files.makeDirectories s.directory ⟨n⟩
        else match s.files.makeDirectory s.directory ⟨n⟩ with
          | .ok files => (files, .ok ())
          | .error e => (s.files, .error e)
      set { s with files := files }
      setStatus (if result.isOk then 0 else 1)
  | "touch" =>
    for n in names do
      let s ← get
      match s.files.append s.directory ⟨n⟩ [] with
      | .ok files => set { s with files := files, status := 0 }
      | .error _ => setStatus 1
  | "rm" =>
    modify fun s =>
      { s with files := names.foldl (fun t n => t.remove s.directory ⟨n⟩) s.files, status := 0 }
  | "basename" =>
    write 1 (bytesOf (baseName (args.head?.getD []) ++ ['\n']))
    setStatus 0
  | "dirname" =>
    write 1 (bytesOf (directoryName (args.head?.getD []) ++ ['\n']))
    setStatus 0
  | "echo" =>
    write 1 (echoBytes args)
    setStatus 0
  | "printf" =>
    match args with
    | format :: rest => write 1 (printfBytes format rest)
    | [] => return
    setStatus 0
  | "pwd" =>
    write 1 (bytesOf ((← get).directory.path.chars ++ ['\n']))
    setStatus 0
  | "test" => setStatus ((← get).test args)
  | "false" => setStatus 1
  | _ => setStatus 0

/-- The signals that end no process. -/
def harmless : List String := ["0", "17", "18", "23", "28", "CHLD", "CONT", "URG", "WINCH"]

/-- Sends a signal. Only the script itself can be met. -/
def kill (args : List (List Char)) : Running Unit := do
  let s ← get
  let (signal, targets) := match args with
    | ['-', 's'] :: n :: rest => (n, rest)
    | ('-' :: n) :: rest => (n, rest)
    | rest => ("TERM".toList, rest)
  if targets.contains (digits s.processId) then
    if harmless.contains (String.ofList signal) then setStatus 0
    else if ["19", "STOP"].contains (String.ofList signal) then throw .timedOut
    else throw .killed
  else
    write 2 (bytesOf (s.self ++ ": 1: kill: No such process\n".toList))
    setStatus 1

/-- The number that an argument gives, or a default. -/
def numberOr (n : Nat) (args : List (List Char)) : Nat :=
  ((args.head?.map String.ofList).bind String.toNat?).getD n

/-- Reads a line of the input into variables; the last one gets the rest of the line. -/
def readLine (names : List (List Char)) : Running Unit := do
  let s ← get
  let line := s.input.takeWhile (· != 10)
  let rest := s.input.drop line.length
  set { s with input := rest.drop 1, status := if rest.isEmpty then 1 else 0 }
  let words := (Text.splitOn ' ' (Utf8.decodeChars line)).filter (!·.isEmpty)
  let rec assign : List (List Char) → List (List Char) → Running Unit
    | [], _ => return
    | [n], ws => setVariable n (Text.joinWith [' '] ws)
    | n :: ns, ws => do
      setVariable n (ws.head?.getD [])
      assign ns (ws.drop 1)
  assign names words

/-- Opens the target of a redirection. -/
def openSink (append : Bool) (target : List Char) : Running (Option Sink) := do
  let s ← get
  if target = "/dev/null".toList then return some .nowhere
  if target = "/dev/stderr".toList then return s.sinks.lookup 2
  if target = "/dev/stdout".toList then return s.sinks.lookup 1
  let result := if append then s.files.append s.directory ⟨target⟩ []
    else s.files.create s.directory ⟨target⟩ []
  match result with
  | .error _ => return none
  | .ok files =>
    set { s with files := files }
    match files.find s.directory ⟨target⟩ with
    | .ok (l, _) => return some (.file l)
    | .error _ => return none

/-- Runs something with its output caught in a buffer of its own. -/
def catching {α : Type} (body : Running α) : Running (α × Bytes) := do
  let s ← get
  let n := s.nextBuffer
  set { s with nextBuffer := n + 1, sinks := setEntry 1 (Sink.buffer n) s.sinks }
  let a ← body
  let s' ← get
  let bs := s'.buffered n
  set { s' with sinks := s.sinks, buffers := s'.buffers.filter (·.1 != n) }
  return (a, bs)

/-- Runs something apart: its variables and its working directory are its own, and what stops it
stops nothing else, unless it is killed or runs out of time. -/
def apart (body : Running Unit) : Running Unit := do
  let s ← get
  let restore : Running Unit := modify fun s' =>
    { s' with bindings := s.bindings, arguments := s.arguments, directory := s.directory }
  tryCatch (do body; restore) fun stop => do
    restore
    match stop with
    | .exited status => setStatus status
    | .killed => throw .killed
    | .timedOut => throw .timedOut
    | _ => return

/-! ### Commands -/

mutual

/-- The fields that pieces come to. Unless `divided` is set, everything is one field. -/
def expand (fuel : Nat) (divided : Bool) (fields : Fields) (pieces : Word) : Running Fields := do
  match fuel, pieces with
  | 0, _ => throw .timedOut
  | _, [] => return fields
  | fuel + 1, .text cs quoted :: rest => expand fuel divided (fields.add cs quoted) rest
  | fuel + 1, .output script quoted :: rest =>
    let ((), bs) ← catching (apart (runSteps fuel script))
    let cs := (Utf8.decodeChars (bs.filter (· != 0))).reverse.dropWhile (· == '\n')
    expand fuel divided (fields.addValue quoted divided cs.reverse) rest
  | fuel + 1, .number e quoted :: rest =>
    let cs := (← expandText fuel e)
    let s ← get
    match calculate s.number cs with
    | some n => expand fuel divided (fields.addValue quoted divided (toString n).toList) rest
    | none => throw (.exited 2)
  | fuel + 1, .param name use quoted :: rest =>
    let s ← get
    match use with
    | .value =>
      if name = ['@'] && divided then
        expand fuel divided (fields.addAll quoted s.arguments) rest
      else expand fuel divided (fields.addValue quoted divided ((s.value? name).getD [])) rest
    | .length =>
      expand fuel divided
        (fields.addValue quoted divided (digits ((s.value? name).getD []).length)) rest
    | .cut front longest pattern =>
      let marks ← expandMarks fuel pattern
      let v := (s.value? name).getD []
      let v := if front then cutFront longest marks v else cutBack longest marks v
      expand fuel divided (fields.addValue quoted divided v) rest
    | .instead emptyToo word =>
      match s.value? name with
      | some v =>
        if v.isEmpty && emptyToo then
          expand fuel divided (← expand fuel (divided && !quoted) fields word) rest
        else expand fuel divided (fields.addValue quoted divided v) rest
      | none => expand fuel divided (← expand fuel (divided && !quoted) fields word) rest
    | .setInstead emptyToo word =>
      let unset := match s.value? name with
        | some v => v.isEmpty && emptyToo
        | none => true
      if unset then setVariable name (← expandText fuel word)
      let v := ((← get).value? name).getD []
      expand fuel divided (fields.addValue quoted divided v) rest
    | .alternative emptyToo word =>
      match s.value? name with
      | some v =>
        if v.isEmpty && emptyToo then expand fuel divided fields rest
        else expand fuel divided (← expand fuel (divided && !quoted) fields word) rest
      | none => expand fuel divided fields rest

/-- The text of a word that is not divided into fields. -/
def expandText (fuel : Nat) (word : Word) : Running (List Char) := do
  match fuel with
  | 0 => throw .timedOut
  | fuel + 1 => return (← expand fuel false ⟨[], none⟩ word).texts.flatten

/-- The pattern of a word. -/
def expandMarks (fuel : Nat) (word : Word) : Running (List Mark) := do
  match fuel with
  | 0 => throw .timedOut
  | fuel + 1 =>
    return marksOf (← expand fuel false ⟨[], none⟩ word).close.done.reverse.flatten

/-- The fields of words. -/
def expandAll (fuel : Nat) (words : List Word) : Running (List (List Char)) := do
  match fuel, words with
  | 0, _ => throw .timedOut
  | _, [] => return []
  | fuel + 1, w :: rest =>
    let fields ← expand fuel true ⟨[], none⟩ w
    return fields.texts ++ (← expandAll fuel rest)

/-- Runs steps in order. -/
def runSteps (fuel : Nat) (script : Script) : Running Unit := do
  match fuel, script with
  | 0, _ => throw .timedOut
  | _, [] => return
  | fuel + 1, .mk join negated commands :: rest =>
    let status := (← get).status
    let due := match join with
      | .always => true
      | .onSuccess => status == 0
      | .onFailure => status != 0
    if due then
      runPipeline fuel commands
      if negated then setStatus (if (← get).status = 0 then 1 else 0)
    runSteps fuel rest

/-- Runs the commands of a pipeline, each on the output of the one before it. -/
def runPipeline (fuel : Nat) (commands : List Command) : Running Unit := do
  match fuel, commands with
  | 0, _ => throw .timedOut
  | _, [] => return
  | fuel + 1, [c] => runCommand fuel c
  | fuel + 1, c :: rest =>
    let ((), bs) ← catching (apart (runCommand fuel c))
    let input := (← get).input
    modify fun s => { s with input := bs }
    apart (runPipeline fuel rest)
    modify fun s => { s with input := input }

/-- Runs a command. -/
def runCommand (fuel : Nat) (command : Command) : Running Unit := do
  match fuel with
  | 0 => throw .timedOut
  | fuel + 1 =>
    match command with
    | .group body => runSteps fuel body
    | .apart body => apart (runSteps fuel body)
    | .branch arms otherwise => runArms fuel arms otherwise
    | .repeat_ untilTrue condition body => runLoop fuel untilTrue condition body
    | .each name words body =>
      let values ← match words with
        | some ws => expandAll fuel ws
        | none => pure (← get).arguments
      setStatus 0
      runEach fuel name values body
    | .choice word arms =>
      let subject ← expandText fuel word
      setStatus 0
      runChoice fuel subject arms
    | .redirected command redirects => redirecting fuel 1 redirects (runCommand fuel command)
    | .simple line settings words redirects =>
      let args ← expandAll fuel words
      match args with
      | [] =>
        setStatus 0
        redirecting fuel line redirects (assign fuel settings)
      | ['e', 'x', 'e', 'c'] :: [] => redirectAll fuel line redirects
      | name :: args =>
        let saved := (← get).bindings
        assign fuel settings
        redirecting fuel line redirects (runNamed fuel line name args)
        unless settings.isEmpty do modify fun s => { s with bindings := saved }

/-- Sets variables. -/
def assign (fuel : Nat) (settings : List (List Char × Word)) : Running Unit := do
  match fuel, settings with
  | 0, _ => throw .timedOut
  | _, [] => return
  | fuel + 1, (name, word) :: rest =>
    setVariable name (← expandText fuel word)
    assign fuel rest

/-- Runs something with redirected streams. -/
def redirecting (fuel line : Nat) (redirects : List Redirect) (body : Running Unit) :
    Running Unit := do
  match fuel with
  | 0 => throw .timedOut
  | fuel + 1 =>
    if redirects.isEmpty then body
    else
      let s ← get
      let restore : Running Unit := modify fun s' => { s' with sinks := s.sinks }
      let hasInput := redirects.any fun | .mk stream d _ => stream == 0 && d == .input
      redirectAll fuel line redirects
      if (← get).status = 2 && s.status != 2 then restore
      else
        modify fun s' => { s' with status := s.status }
        tryCatch body fun stop => do
          restore
          throw stop
        restore
        if hasInput then modify fun s' => { s' with input := s.input }

/-- Redirects streams. A redirection that fails sets the status 2. -/
def redirectAll (fuel line : Nat) (redirects : List Redirect) : Running Unit := do
  match fuel, redirects with
  | 0, _ => throw .timedOut
  | _, [] => return
  | fuel + 1, .mk stream direction target :: rest =>
    let target ← expandText fuel target
    let s ← get
    match direction with
    | .input =>
      match s.files.read s.directory ⟨target⟩ with
      | .ok bs =>
        set { s with input := bs }
        redirectAll fuel line rest
      | .error _ =>
        if target = "/dev/null".toList then
          set { s with input := [] }
          redirectAll fuel line rest
        else
          complain line ("cannot open " ++ String.ofList target ++ ": No such file")
          setStatus 2
    | .duplicate =>
      let sink := match (String.ofList target).toNat? with
        | some n => (s.sinks.lookup n).getD .nowhere
        | none => .nowhere
      set { s with sinks := setEntry stream sink s.sinks }
      redirectAll fuel line rest
    | d =>
      match ← openSink (d == .append) target with
      | some sink =>
        modify fun s => { s with sinks := setEntry stream sink s.sinks }
        redirectAll fuel line rest
      | none =>
        complain line ("cannot create " ++ String.ofList target ++ ": Directory nonexistent")
        setStatus 2

/-- Runs the first arm whose condition holds. -/
def runArms (fuel : Nat) (arms : List (Script × Script)) (otherwise : Script) :
    Running Unit := do
  match fuel, arms with
  | 0, _ => throw .timedOut
  | fuel + 1, [] =>
    setStatus 0
    runSteps fuel otherwise
  | fuel + 1, (condition, body) :: rest =>
    runSteps fuel condition
    if (← get).status = 0 then runSteps fuel body else runArms fuel rest otherwise

/-- Runs a body as long as a condition holds, or does not hold. -/
def runLoop (fuel : Nat) (untilTrue : Bool) (condition body : Script) : Running Unit := do
  match fuel with
  | 0 => throw .timedOut
  | fuel + 1 =>
    runSteps fuel condition
    if ((← get).status = 0) = (!untilTrue) then
      if ← turn fuel body then runLoop fuel untilTrue condition body
    else setStatus 0

/-- Runs a body for each value. -/
def runEach (fuel : Nat) (name : List Char) (values : List (List Char)) (body : Script) :
    Running Unit := do
  match fuel, values with
  | 0, _ => throw .timedOut
  | _, [] => return
  | fuel + 1, v :: rest =>
    setVariable name v
    if ← turn fuel body then runEach fuel name rest body

/-- One turn of a loop, and whether the loop goes on. -/
def turn (fuel : Nat) (body : Script) : Running Bool := do
  match fuel with
  | 0 => throw .timedOut
  | fuel + 1 =>
    tryCatch (do runSteps fuel body; return true) fun
      | .leave => return false
      | .again => return true
      | stop => throw stop

/-- Runs the first arm that has a pattern for a text. -/
def runChoice (fuel : Nat) (subject : List Char) (arms : List (List Word × Script)) :
    Running Unit := do
  match fuel, arms with
  | 0, _ => throw .timedOut
  | _, [] => return
  | fuel + 1, (patterns, body) :: rest =>
    if ← anyMatches fuel subject patterns then runSteps fuel body
    else runChoice fuel subject rest

/-- Whether one of some patterns matches a text. -/
def anyMatches (fuel : Nat) (subject : List Char) (patterns : List Word) : Running Bool := do
  match fuel, patterns with
  | 0, _ => throw .timedOut
  | _, [] => return false
  | fuel + 1, p :: rest =>
    if matchesAll (← expandMarks fuel p) subject then return true
    else anyMatches fuel subject rest

/-- Runs a command by its name. -/
def runNamed (fuel line : Nat) (name : List Char) (args : List (List Char)) : Running Unit := do
  match fuel with
  | 0 => throw .timedOut
  | fuel + 1 =>
    match String.ofList name with
    | ":" | "true" | "umask" | "wait" | "trap" | "local" => setStatus 0
    | "exit" | "return" =>
      let s ← get
      throw (.exited (numberOr s.status args % 256))
    | "break" => throw .leave
    | "continue" => throw .again
    | "cd" =>
      let s ← get
      match s.files.find s.directory ⟨args.head?.getD ['/']⟩ with
      | .ok (l, .directory) => set { s with directory := l, status := 0 }
      | _ =>
        complain line ("cd: can't cd to " ++ String.ofList (args.head?.getD []))
        setStatus 2
    | "set" =>
      match args with
      | ['-', '-'] :: rest => modify fun s => { s with arguments := rest, status := 0 }
      | _ => setStatus 0
    | "shift" =>
      modify fun s => { s with arguments := s.arguments.drop (numberOr 1 args), status := 0 }
    | "[" => setStatus ((← get).test args.dropLast)
    | "read" => readLine (args.filter fun a => a.head? != some '-')
    | "export" =>
      args.forM fun a => do
        match Text.splitOn '=' a with
        | n :: v :: rest => setVariable n (Text.joinWith ['='] (v :: rest))
        | _ => return
      setStatus 0
    | "unset" =>
      modify fun s =>
        { s with bindings := s.bindings.filter fun v => !args.contains v.1, status := 0 }
    | "kill" => kill args
    | "eval" =>
      match parse (Text.joinWith [' '] args) with
      | .ok script => runSteps fuel script
      | .error _ => throw (.exited 2)
    | "exec" =>
      match args with
      | name :: args =>
        runNamed fuel line name args
        throw (.exited (← get).status)
      | [] => return
    | "command" =>
      match args with
      | name :: args => runNamed fuel line name args
      | [] => return
    | known =>
      if builtins.contains known then runTool known args
      else
        match (← get).program name with
        | .tool tool => runTool tool args
        | .file p => runFile fuel p args
        | .notRunnable =>
          complain line (known ++ ": Permission denied")
          setStatus 126
        | .missing =>
          complain line (known ++ ": not found")
          setStatus 127

/-- Runs a script that is a file. -/
def runFile (fuel : Nat) (p : Path) (args : List (List Char)) : Running Unit := do
  match fuel with
  | 0 => throw .timedOut
  | fuel + 1 =>
    let s ← get
    match s.files.read s.directory p with
    | .error _ => setStatus 126
    | .ok bs =>
      match parse (Utf8.decodeChars bs) with
      | .error _ => setStatus 2
      | .ok script =>
        apart do
          modify fun s => { s with self := p.chars, arguments := args, processId := s.processId + 1 }
          tryCatch (runSteps fuel script) fun
            | .killed => throw (.exited 137)
            | stop => throw stop
        modify fun s' => { s' with self := s.self, processId := s.processId }

end

/-- How many commands a script may come to. A script that comes to more does not end. -/
def fuelLimit : Nat := 1000000

/-- Runs a script: the state that it leaves, and how it ended. -/
def runScript (script : List Char) (s : State) : Ending × State :=
  match parse script with
  | .error f =>
    let message := s.self ++ (": " ++ toString f.line ++ ": Syntax error\n").toList
    let (_, s) := (write 2 (bytesOf message)).run.run s
    (.exited 2, s)
  | .ok steps =>
    match (runSteps fuelLimit steps).run.run s with
    | (.ok (), s) => (.exited s.status, s)
    | (.error (.exited status), s) => (.exited status, s)
    | (.error .killed, s) => (.killed, s)
    | (.error .timedOut, s) => (.timedOut, s)
    | (.error _, s) => (.exited s.status, s)

end StandardsGate.Shell
