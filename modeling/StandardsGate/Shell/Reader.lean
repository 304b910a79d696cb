import StandardsGate.Shell.Script

/-!
Reading shell scripts.

Main definitions:

* `Shell.parse` — the tree of a script's text.
-/

namespace StandardsGate.Shell

/-- What is left of a script to be read, and the number of the line. -/
structure Cursor where
  rest : List Char
  line : Nat
deriving Inhabited

/-- A script that cannot be read, and the line where reading stopped. -/
structure Fault where
  line : Nat
deriving Repr

/-- Reading from a cursor. -/
abbrev Reading := StateT Cursor (Except Fault)

/-- Stops reading. -/
def fail {α : Type} : Reading α := do throw ⟨(← get).line⟩

/-- Whether a character can stand in a name. -/
def isNameChar (c : Char) : Bool := c.isAlphanum || c == '_'

/-- Whether a character ends a word. -/
def isMeta (c : Char) : Bool :=
  c == ' ' || c == '\t' || c == '\n' || c == ';' || c == '&' || c == '|' || c == '<' || c == '>' ||
    c == '(' || c == ')'

/-- Moves the cursor behind some characters. -/
def advance (n : Nat) : Reading Unit := modify fun c =>
  ⟨c.rest.drop n, c.line + (c.rest.take n).count '\n'⟩

/-- Whether some characters come next. -/
def comesNext (cs : List Char) : Reading Bool := do return cs.isPrefixOf (← get).rest

/-- Reads characters that have to come next. -/
def expect (cs : List Char) : Reading Unit := do
  if ← comesNext cs then advance cs.length else fail

/-- The characters in front that satisfy a condition are read. -/
def readWhile (p : Char → Bool) : Reading (List Char) := do
  let cs := (← get).rest.takeWhile p
  advance cs.length
  return cs

/-- Reads characters up to a delimiter, and the delimiter. -/
def readUntil (d : Char) : Reading (List Char) := do
  let cs ← readWhile (· != d)
  expect [d]
  return cs

/-- The number of characters of blanks, continued lines and a comment in front of a text. -/
def blankLength (atStart : Bool) : List Char → Nat
  | '\\' :: '\n' :: rest => 2 + blankLength true rest
  | ' ' :: rest => 1 + blankLength true rest
  | '\t' :: rest => 1 + blankLength true rest
  | '#' :: rest => if atStart then 1 + (rest.takeWhile (· != '\n')).length else 0
  | _ => 0

/-- Skips blanks in a line. -/
def skipBlanks : Reading Unit := do
  advance (blankLength true (← get).rest)

/-- Skips blanks and line breaks. -/
def skipLines : Nat → Reading Unit
  | 0 => return
  | fuel + 1 => do
    skipBlanks
    if ← comesNext ['\n'] then
      advance 1
      skipLines fuel

/-- The plain characters of the word that comes next, if nothing else is in it. -/
def plainWord : Reading (List Char) := do
  let rest := (← get).rest
  let cs := rest.takeWhile fun c => !isMeta c && c != '"' && c != '\'' && c != '$' && c != '\x60' &&
    c != '\\'
  match rest.drop cs.length with
  | [] => return cs
  | c :: _ => return if isMeta c then cs else []

/-- The words that end a list of steps. -/
def closers : List String := ["then", "fi", "else", "elif", "do", "done", "esac", "\x7d"]

/-- Whether the end of a list of steps comes next. -/
def atEnd : Reading Bool := do
  match (← get).rest with
  | [] => return true
  | ')' :: _ => return true
  | ';' :: ';' :: _ => return true
  | _ => return closers.contains (String.ofList (← plainWord))

/-- Reads a word that has to come next. -/
def keyword (word : String) : Reading Unit := do
  skipBlanks
  if (← plainWord) = word.toList then advance word.length else fail

/-- Whether an operator may follow a parameter's name in braces, and what it does. -/
def useOf (emptyToo : Bool) (c : Char) (word : Word) : Option Use :=
  match c with
  | '-' => some (.instead emptyToo word)
  | '=' => some (.setInstead emptyToo word)
  | '+' => some (.alternative emptyToo word)
  | '?' => some (.instead emptyToo word)
  | _ => none

/-- Reads the name of a parameter: a name, a number or one sign. -/
def readName : Reading (List Char) := do
  match (← get).rest with
  | c :: _ =>
    if c.isDigit then
      advance 1
      return [c]
    else if isNameChar c then readWhile isNameChar
    else if ['@', '*', '#', '?', '$', '!', '-'].contains c then
      advance 1
      return [c]
    else return []
  | [] => return []

/-- Reads the number of a redirected stream, if a redirection comes next. -/
def redirectAhead : Reading (Option (Option Nat)) := do
  let rest := (← get).rest
  let ds := rest.takeWhile Char.isDigit
  match rest.drop ds.length with
  | '<' :: _ | '>' :: _ =>
    advance ds.length
    return some (if ds.isEmpty then none else (String.ofList ds).toNat?)
  | _ => return none

/-- Whether a setting of a variable comes next, and of which. -/
def settingAhead : Reading (Option (List Char)) := do
  let rest := (← get).rest
  let name := rest.takeWhile isNameChar
  match name, rest.drop name.length with
  | c :: _, '=' :: _ => return if c.isDigit then none else some name
  | _, _ => return none

/-- Whether a piece stands for all arguments, of which there may be none. -/
def standsForArguments : Piece → Bool
  | .param ['@'] .value _ => true
  | _ => false

/-- What double quotes add to the pieces between them: even if these come to nothing there is a
field, unless they stand for all arguments. -/
def quotedPieces (pieces : Word) : Word :=
  if pieces.any standsForArguments then pieces else .text [] true :: pieces

mutual

/-- Reads the pieces of a word. In braces a closing brace ends it, and blanks do not. -/
def readWord (fuel : Nat) (inBraces : Bool) : Reading Word := do
  match fuel with
  | 0 => fail
  | fuel + 1 =>
    match (← get).rest with
    | [] => return []
    | '\\' :: '\n' :: _ =>
      advance 2
      readWord fuel inBraces
    | '\\' :: c :: _ =>
      advance 2
      return .text [c] true :: (← readWord fuel inBraces)
    | '\'' :: _ =>
      advance 1
      let cs ← readUntil '\''
      return .text cs true :: (← readWord fuel inBraces)
    | '"' :: _ =>
      advance 1
      let pieces ← readQuoted fuel
      return quotedPieces pieces ++ (← readWord fuel inBraces)
    | '$' :: _ =>
      let piece ← readDollar fuel false
      return piece :: (← readWord fuel inBraces)
    | '\x60' :: _ =>
      advance 1
      let steps ← readInner fuel (← readUntil '\x60')
      return .output steps false :: (← readWord fuel inBraces)
    | c :: _ =>
      if if inBraces then c == '\x7d' else isMeta c then return []
      else
        advance 1
        return .text [c] false :: (← readWord fuel inBraces)

/-- Reads pieces between double quotes, and the closing quote. -/
def readQuoted (fuel : Nat) : Reading Word := do
  match fuel with
  | 0 => fail
  | fuel + 1 =>
    match (← get).rest with
    | [] => fail
    | '"' :: _ =>
      advance 1
      return []
    | '\\' :: '\n' :: _ =>
      advance 2
      readQuoted fuel
    | '\\' :: c :: _ =>
      advance 2
      let kept := if ['$', '\x60', '"', '\\'].contains c then [c] else ['\\', c]
      return .text kept true :: (← readQuoted fuel)
    | '$' :: _ =>
      let piece ← readDollar fuel true
      return piece :: (← readQuoted fuel)
    | '\x60' :: _ =>
      advance 1
      let steps ← readInner fuel (← readUntil '\x60')
      return .output steps true :: (← readQuoted fuel)
    | c :: _ =>
      advance 1
      return .text [c] true :: (← readQuoted fuel)

/-- Reads the steps of a text of their own. -/
def readInner (fuel : Nat) (cs : List Char) : Reading Script := do
  match fuel with
  | 0 => fail
  | fuel + 1 =>
    let saved ← get
    set { saved with rest := cs }
    let steps ← readSteps fuel .always
    set saved
    return steps

/-- Reads what begins with a dollar sign. -/
def readDollar (fuel : Nat) (quoted : Bool) : Reading Piece := do
  match fuel with
  | 0 => fail
  | fuel + 1 =>
    advance 1
    if ← comesNext ['(', '('] then
      advance 2
      let pieces ← readExpression fuel 0
      return .number pieces quoted
    else if ← comesNext ['('] then
      advance 1
      let steps ← readSteps fuel .always
      expect [')']
      return .output steps quoted
    else if ← comesNext ['\x7b'] then
      advance 1
      readBraces fuel quoted
    else
      let name ← readName
      if name.isEmpty then return .text ['$'] quoted else return .param name .value quoted

/-- Reads a parameter in braces, behind the opening brace. -/
def readBraces (fuel : Nat) (quoted : Bool) : Reading Piece := do
  match fuel with
  | 0 => fail
  | fuel + 1 =>
    let isLength := match (← get).rest with
      | '#' :: c :: _ => c != '\x7d'
      | _ => false
    if isLength then
      advance 1
      let name ← readName
      expect ['\x7d']
      return .param name .length quoted
    let name ← readName
    if name.isEmpty then fail
    match (← get).rest with
    | '\x7d' :: _ =>
      advance 1
      return .param name .value quoted
    | '#' :: rest | '%' :: rest =>
      let front ← comesNext ['#']
      let longest := rest.head? == (if front then some '#' else some '%')
      advance (if longest then 2 else 1)
      let pattern ← readWord fuel true
      expect ['\x7d']
      return .param name (.cut front longest pattern) quoted
    | ':' :: c :: _ =>
      advance 2
      let word ← readWord fuel true
      expect ['\x7d']
      match useOf true c word with
      | some use => return .param name use quoted
      | none => fail
    | c :: _ =>
      advance 1
      let word ← readWord fuel true
      expect ['\x7d']
      match useOf false c word with
      | some use => return .param name use quoted
      | none => fail
    | [] => fail

/-- Reads an arithmetic expression up to its two closing parentheses. -/
def readExpression (fuel level : Nat) : Reading Word := do
  match fuel with
  | 0 => fail
  | fuel + 1 =>
    match (← get).rest with
    | [] => fail
    | '$' :: _ =>
      let piece ← readDollar fuel true
      return piece :: (← readExpression fuel level)
    | '(' :: _ =>
      advance 1
      return .text ['('] true :: (← readExpression fuel (level + 1))
    | ')' :: _ =>
      if level = 0 then
        expect [')', ')']
        return []
      else
        advance 1
        return .text [')'] true :: (← readExpression fuel (level - 1))
    | c :: _ =>
      advance 1
      return .text [c] true :: (← readExpression fuel level)

/-- Reads a list of steps up to what ends it. -/
def readSteps (fuel : Nat) (join : Join) : Reading Script := do
  match fuel with
  | 0 => fail
  | fuel + 1 =>
    skipLines (fuel + 1)
    if ← atEnd then return []
    let negated := (← plainWord) = ['!']
    if negated then
      advance 1
      skipBlanks
    let commands ← readPipeline fuel
    let step := Step.mk join negated commands
    skipBlanks
    match (← get).rest with
    | '&' :: '&' :: _ =>
      advance 2
      return step :: (← readSteps fuel .onSuccess)
    | '|' :: '|' :: _ =>
      advance 2
      return step :: (← readSteps fuel .onFailure)
    | ';' :: ';' :: _ => return [step]
    | ';' :: _ | '&' :: _ | '\n' :: _ =>
      advance 1
      return step :: (← readSteps fuel .always)
    | [] | ')' :: _ => return [step]
    | _ => if ← atEnd then return [step] else fail

/-- Reads commands with pipes between them. -/
def readPipeline (fuel : Nat) : Reading (List Command) := do
  match fuel with
  | 0 => fail
  | fuel + 1 =>
    let command ← readCommand fuel
    skipBlanks
    match (← get).rest with
    | '|' :: '|' :: _ => return [command]
    | '|' :: _ =>
      advance 1
      skipLines fuel
      return command :: (← readPipeline fuel)
    | _ => return [command]

/-- Reads one command with its redirections. -/
def readCommand (fuel : Nat) : Reading Command := do
  match fuel with
  | 0 => fail
  | fuel + 1 =>
    if ← comesNext ['('] then
      advance 1
      let body ← readSteps fuel .always
      expect [')']
      readRedirects fuel (.apart body)
    else
      match String.ofList (← plainWord) with
      | "\x7b" =>
        advance 1
        let body ← readSteps fuel .always
        keyword "\x7d"
        readRedirects fuel (.group body)
      | "if" =>
        advance 2
        let command ← readBranches fuel []
        readRedirects fuel command
      | "while" | "until" =>
        let untilTrue := (← plainWord) = "until".toList
        advance 5
        let condition ← readSteps fuel .always
        keyword "do"
        let body ← readSteps fuel .always
        keyword "done"
        readRedirects fuel (.repeat_ untilTrue condition body)
      | "for" =>
        advance 3
        skipBlanks
        let name ← readName
        skipLines fuel
        let words ← if (← plainWord) = "in".toList then do
            advance 2
            pure (some (← readWords fuel))
          else pure none
        skipBlanks
        if ← comesNext [';'] then advance 1
        skipLines fuel
        keyword "do"
        let body ← readSteps fuel .always
        keyword "done"
        readRedirects fuel (.each name words body)
      | "case" =>
        advance 4
        skipBlanks
        let word ← readWord fuel false
        skipLines fuel
        keyword "in"
        let arms ← readArms fuel
        keyword "esac"
        readRedirects fuel (.choice word arms)
      | _ => readSimple fuel (← get).line [] [] []

/-- Reads the conditions and bodies of a branching behind its first word. -/
def readBranches (fuel : Nat) (arms : List (Script × Script)) : Reading Command := do
  match fuel with
  | 0 => fail
  | fuel + 1 =>
    let condition ← readSteps fuel .always
    keyword "then"
    let body ← readSteps fuel .always
    let arms := arms ++ [(condition, body)]
    match String.ofList (← plainWord) with
    | "elif" =>
      advance 4
      readBranches fuel arms
    | "else" =>
      advance 4
      let otherwise ← readSteps fuel .always
      keyword "fi"
      return .branch arms otherwise
    | _ =>
      keyword "fi"
      return .branch arms []

/-- Reads words up to the end of a line or a list. -/
def readWords (fuel : Nat) : Reading (List Word) := do
  match fuel with
  | 0 => fail
  | fuel + 1 =>
    skipBlanks
    match (← get).rest with
    | [] => return []
    | c :: _ =>
      if isMeta c then return []
      let word ← readWord fuel false
      return word :: (← readWords fuel)

/-- Reads the arms of a choice. -/
def readArms (fuel : Nat) : Reading (List (List Word × Script)) := do
  match fuel with
  | 0 => fail
  | fuel + 1 =>
    skipLines fuel
    if (← plainWord) = "esac".toList then return []
    if ← comesNext ['('] then advance 1
    let patterns ← readPatterns fuel
    expect [')']
    let body ← readSteps fuel .always
    if ← comesNext [';', ';'] then
      advance 2
      return (patterns, body) :: (← readArms fuel)
    else return [(patterns, body)]

/-- Reads patterns with bars between them. -/
def readPatterns (fuel : Nat) : Reading (List Word) := do
  match fuel with
  | 0 => fail
  | fuel + 1 =>
    skipBlanks
    let pattern ← readWord fuel false
    skipBlanks
    if ← comesNext ['|'] then
      advance 1
      return pattern :: (← readPatterns fuel)
    else return [pattern]

/-- Reads one redirection behind its stream's number. -/
def readRedirect (fuel : Nat) (stream : Option Nat) : Reading Redirect := do
  match fuel with
  | 0 => fail
  | fuel + 1 =>
    let (direction, length, standard) ← match (← get).rest with
      | '>' :: '>' :: _ => pure (Direction.append, 2, 1)
      | '>' :: '&' :: _ => pure (Direction.duplicate, 2, 1)
      | '>' :: '|' :: _ => pure (Direction.output, 2, 1)
      | '>' :: _ => pure (Direction.output, 1, 1)
      | '<' :: '&' :: _ => pure (Direction.duplicate, 2, 0)
      | '<' :: '<' :: _ => fail
      | _ => pure (Direction.input, 1, 0)
    advance length
    skipBlanks
    let target ← readWord fuel false
    return .mk (stream.getD standard) direction target

/-- Reads the redirections behind a compound command. -/
def readRedirects (fuel : Nat) (command : Command) : Reading Command := do
  match fuel with
  | 0 => fail
  | fuel + 1 =>
    skipBlanks
    match ← redirectAhead with
    | none => return command
    | some stream =>
      let r ← readRedirect fuel stream
      match command with
      | .redirected inner rs => readRedirects fuel (.redirected inner (rs ++ [r]))
      | _ => readRedirects fuel (.redirected command [r])

/-- Reads the parts of a simple command. -/
def readSimple (fuel line : Nat) (settings : List (List Char × Word)) (words : List Word)
    (redirects : List Redirect) : Reading Command := do
  match fuel with
  | 0 => fail
  | fuel + 1 =>
    skipBlanks
    match ← redirectAhead with
    | some stream =>
      let r ← readRedirect fuel stream
      readSimple fuel line settings words (redirects ++ [r])
    | none =>
      match ← (if words.isEmpty then settingAhead else pure none) with
      | some name =>
        advance (name.length + 1)
        let value ← readWord fuel false
        readSimple fuel line (settings ++ [(name, value)]) words redirects
      | none =>
        match (← get).rest with
        | [] => return .simple line settings words redirects
        | c :: _ =>
          if isMeta c then
            if settings.isEmpty && words.isEmpty && redirects.isEmpty then fail
            return .simple line settings words redirects
          else
            let word ← readWord fuel false
            readSimple fuel line settings (words ++ [word]) redirects

end

/-- The tree of a script. -/
def parse (text : List Char) : Except Fault Script := do
  let read : Reading Script := do
    let steps ← readSteps (8 * text.length + 16) .always
    if !(← get).rest.isEmpty then fail
    return steps
  (·.1) <$> read.run ⟨text, 1⟩

end StandardsGate.Shell
