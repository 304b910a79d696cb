import StandardsGate.Regex.Flags
import StandardsGate.Regex.Node
import StandardsGate.Unicode.Age
import StandardsGate.Unicode.Property
import StandardsGate.Unicode.Script

/-!
Escapes of patterns: what a backslash and the characters after it stand for.

Main definitions:

* `Regex.Escape` — a character, a set of characters or an assertion;
* `Regex.readEscape` — reads one escape, the backslash being read already;
* `Regex.propertyByName?` — the set that a property query such as `Greek` or `gc=Lu` selects.
-/

namespace StandardsGate.Regex

/-- What an escape stands for. A character written as two hexadecimal digits is also a `byte`. -/
inductive Escape
  | char (c : Char) (byte : Bool)
  | set (s : CodeSet)
  | look (l : Look)

/-- White space as patterns skip it. -/
def isBlank (c : Char) : Bool := Unicode.blankCharacters.contains c

/-- Drops a comment up to and including its line feed. -/
def skipComment : List Char → List Char
  | [] => []
  | c :: rest => if c = '\n' then rest else skipComment rest

theorem length_skipComment_le (cs : List Char) : (skipComment cs).length ≤ cs.length := by
  induction cs with
  | nil => simp [skipComment]
  | cons c rest ih =>
    unfold skipComment
    split
    · simp
    · simp only [List.length_cons]; omega

/-- Drops blanks and comments where the pattern is verbose. -/
def skipSpace (verbose : Bool) (cs : List Char) : List Char :=
  match cs with
  | [] => []
  | c :: rest =>
    if !verbose then c :: rest
    else if isBlank c then skipSpace verbose rest
    else if c = '#' then
      have := length_skipComment_le rest
      skipSpace verbose (skipComment rest)
    else c :: rest
termination_by cs.length

theorem length_skipSpace_le (verbose : Bool) (cs : List Char) :
    (skipSpace verbose cs).length ≤ cs.length := by
  fun_induction skipSpace verbose cs with
  | case1 => simp
  | case2 => simp
  | case3 => simp only [List.length_cons]; omega
  | case4 => simp only [List.length_cons]; omega
  | case5 => simp

/-! ### Hexadecimal escapes -/

/-- The number that hexadecimal digits denote, most significant first. -/
def hexNumber? (digits : List Char) : Option Nat :=
  digits.foldlM (fun n c => (CodeSet.hexValue? c).map (n * 16 + ·)) 0

/-- The character of a code point; surrogates and numbers beyond the last one have none. -/
def charOfCode? (n : Nat) : Option Char :=
  if h : n.isValidChar then some (Char.ofNatAux n h) else none

/-- Reads exactly `n` hexadecimal digits. -/
def readHexDigits (verbose : Bool) : Nat → List Char → List Char → Except Fault (Nat × List Char)
  | 0, acc, cs =>
    match hexNumber? acc.reverse with
    | some n => .ok (n, cs)
    | none => .error .escapeUnknown
  | _ + 1, _, [] => .error .escapeUnfinished
  | n + 1, acc, c :: rest =>
    if (CodeSet.hexValue? c).isNone then .error .escapeUnknown
    else readHexDigits verbose n (c :: acc) (skipSpace verbose rest)

/-- Reads hexadecimal digits up to a closing brace; blanks between them are skipped in verbose
patterns. -/
def readBracedHex (verbose : Bool) (acc : List Char) (cs : List Char) :
    Except Fault (Nat × List Char) :=
  match cs with
  | [] => .error .escapeUnfinished
  | c :: rest =>
    if verbose && isBlank c then readBracedHex verbose acc rest
    else if c = '}' then
      match acc, hexNumber? acc.reverse with
      | [], _ => .error .escapeUnknown
      | _, some n => .ok (n, skipSpace verbose rest)
      | _, none => .error .escapeUnknown
    else if (CodeSet.hexValue? c).isNone then .error .escapeUnknown
    else readBracedHex verbose (c :: acc) rest

/-- Reads the number of a hexadecimal escape: in braces, or of a fixed number of digits. -/
def readHex (verbose : Bool) (digits : Nat) (cs : List Char) :
    Except Fault (Escape × List Char) := do
  match skipSpace verbose cs with
  | [] => .error .escapeUnfinished
  | '{' :: rest =>
    let (n, rest) ← readBracedHex verbose [] rest
    match charOfCode? n with
    | some c => return (.char c false, rest)
    | none => .error .codePointInvalid
  | rest =>
    let (n, rest) ← readHexDigits verbose digits [] rest
    match charOfCode? n with
    | some c => return (.char c (digits == 2), rest)
    | none => .error .codePointInvalid

/-! ### Property queries -/

/-- The loose spelling of a name: lower case, without blanks, underscores and hyphens, and without
a leading `is`; the name `isc` is the one that keeps it. -/
def looseName (name : List Char) : String :=
  let body := match name with
    | i :: s :: rest => if (i = 'i' || i = 'I') && (s = 's' || s = 'S') then rest else name
    | _ => name
  let kept := body.filter fun c => c != ' ' && c != '_' && c != '-' && c.toNat ≤ 0x7F
  let lower := String.ofList (kept.map Char.toLower)
  if body.length < name.length && lower = "c" then "isc" else lower

/-- The set of a bare name: a binary property, a general category or a script. The names of `cf`,
`sc` and `lc` are categories, although properties share them. -/
def bareProperty? (name : String) : Option CodeSet :=
  (Unicode.propertySet? name).or ((Unicode.categorySet? name).or (Unicode.scriptSet? name))

/-- The set of a query that names a property and a value. -/
def valuedProperty? (property value : String) : Option CodeSet :=
  if ["gc", "generalcategory"].contains property then Unicode.categorySet? value
  else if ["sc", "script"].contains property then Unicode.scriptSet? value
  else if ["scx", "scriptextensions"].contains property then Unicode.scriptExtensionSet? value
  else if property = "age" then Unicode.ageSet? value
  else none

/-- Splits a text at the first place where `sep` stands. -/
def splitAtFirst? (sep : List Char) : List Char → Option (List Char × List Char)
  | [] => none
  | c :: rest =>
    if sep.isPrefixOf (c :: rest) then some ([], (c :: rest).drop sep.length)
    else (splitAtFirst? sep rest).map fun p => (c :: p.1, p.2)

/-- The set that a query names: `name`, `property=value`, `property:value`, or `property!=value`;
the last asks for the complement, which the second component says. -/
def propertyByName? (query : List Char) : Option (CodeSet × Bool) :=
  match splitAtFirst? ['!', '='] query with
  | some (p, v) => (valuedProperty? (looseName p) (looseName v)).map (·, true)
  | none =>
    match (splitAtFirst? [':'] query).or (splitAtFirst? ['='] query) with
    | some (p, v) => (valuedProperty? (looseName p) (looseName v)).map (·, false)
    | none => (bareProperty? (looseName query)).map (·, false)

/-- Reads a property's name up to the closing brace. -/
def readBracedName (verbose : Bool) (acc : List Char) : List Char →
    Except Fault (List Char × List Char)
  | [] => .error .escapeUnfinished
  | c :: rest =>
    if verbose && isBlank c then readBracedName verbose acc rest
    else if c = '}' then .ok (acc.reverse, rest)
    else readBracedName verbose (c :: acc) rest

/-- Closes a set under case where the flags ask for it, then takes its complement if negated. -/
def foldAndNegate (f : Flags) (negated : Bool) (s : CodeSet) : CodeSet :=
  let s := if !f.ignoreCase then s else if f.unicode then Unicode.foldCase s
    else Unicode.foldAsciiCase s
  if negated then s.complement else s

/-- Reads a property escape after its letter. -/
def readProperty (f : Flags) (negated : Bool) (cs : List Char) :
    Except Fault (Escape × List Char) := do
  let (name, rest) ← match skipSpace f.verbose cs with
    | [] => .error .escapeUnfinished
    | '{' :: rest => readBracedName f.verbose [] rest
    | '\\' :: _ => .error .propertyUnknown
    | c :: rest => .ok ([c], skipSpace f.verbose rest)
  if !f.unicode then .error .unicodeRequired
  match propertyByName? name with
  | some (s, excluded) => return (.set (foldAndNegate f (negated != excluded) s), rest)
  | none => .error .propertyUnknown

/-! ### The escapes -/

/-- ASCII digits, white space and word characters, for patterns without Unicode. -/
def asciiShorthand (letter : Char) : CodeSet :=
  match letter with
  | 'd' => .range 0x30 0x39
  | 's' => ⟨[(0x09, 0x0D), (0x20, 0x20)]⟩
  | _ => asciiWord

/-- The set of a shorthand letter `d`, `s` or `w`. -/
def unicodeShorthand (letter : Char) : CodeSet :=
  match letter with
  | 'd' => Unicode.digitCharacters
  | 's' => Unicode.blankCharacters
  | _ => Unicode.wordCharacters

/-- The set of a shorthand letter, upper case for the complement. Without Unicode the complement
would reach bytes that are no text. -/
def shorthand (f : Flags) (letter : Char) : Except Fault CodeSet :=
  let negated := letter.isUpper
  let letter := letter.toLower
  if f.unicode then
    .ok (if negated then (unicodeShorthand letter).complement else unicodeShorthand letter)
  else if negated then .error .invalidUtf8
  else .ok (asciiShorthand letter)

/-- Characters with a meaning of their own in patterns or classes. -/
def isMeta (c : Char) : Bool := "\\.+*?()|[]\x7b\x7d^$#&-~".toList.contains c

/-- Characters that a backslash leaves as they are: all of ASCII but letters, digits and the angle
brackets. -/
def isEscapable (c : Char) : Bool :=
  isMeta c || (c.toNat ≤ 0x7F && !c.isAlphanum && c != '<' && c != '>')

/-- The letters of a named word boundary. -/
def isBoundaryLetter (c : Char) : Bool := c.isAlpha || c == '-'

/-- Reads the name of a word boundary up to its brace. -/
def readBoundaryName (verbose : Bool) (acc : List Char) (cs : List Char) :
    Except Fault (List Char × List Char) :=
  match cs with
  | [] => .error .boundaryUnknown
  | c :: rest =>
    if verbose && isBlank c then readBoundaryName verbose acc rest
    else if isBoundaryLetter c then readBoundaryName verbose (c :: acc) rest
    else if c = '}' then .ok (acc.reverse, rest)
    else .error .boundaryUnknown

/-- Reads what follows `\b`: a name in braces if one begins there, otherwise nothing, so that a
counted repetition can follow. -/
def readBoundary (f : Flags) (cs : List Char) : Except Fault (Escape × List Char) := do
  match cs with
  | '{' :: rest =>
    match skipSpace f.verbose rest with
    | [] => .error .boundaryUnknown
    | c :: rest' =>
      if !isBoundaryLetter c then return (.look (.wordBoundary f.unicode), cs)
      let (name, rest) ← readBoundaryName f.verbose [] (c :: rest')
      match String.ofList name with
      | "start" => return (.look (.wordStart f.unicode), rest)
      | "end" => return (.look (.wordEnd f.unicode), rest)
      | "start-half" => return (.look (.wordStartHalf f.unicode), rest)
      | "end-half" => return (.look (.wordEndHalf f.unicode), rest)
      | _ => .error .boundaryUnknown
  | _ => return (.look (.wordBoundary f.unicode), cs)

/-- Reads an escape; the backslash is read already. -/
def readEscape (f : Flags) (cs : List Char) : Except Fault (Escape × List Char) := do
  match cs with
  | [] => .error .escapeUnfinished
  | c :: rest =>
    if c.isDigit then .error .backreference
    else match c with
      | 'x' => readHex f.verbose 2 rest
      | 'u' => readHex f.verbose 4 rest
      | 'U' => readHex f.verbose 8 rest
      | 'p' => readProperty f false rest
      | 'P' => readProperty f true rest
      | 'd' | 's' | 'w' | 'D' | 'S' | 'W' => return (.set (← shorthand f c), rest)
      | 'a' => return (.char '\x07' false, rest)
      | 'f' => return (.char '\x0C' false, rest)
      | 't' => return (.char '\t' false, rest)
      | 'n' => return (.char '\n' false, rest)
      | 'r' => return (.char '\r' false, rest)
      | 'v' => return (.char '\x0B' false, rest)
      | 'A' => return (.look .textStart, rest)
      | 'z' => return (.look .textEnd, rest)
      | 'b' => readBoundary f rest
      | 'B' => return (.look (.notWordBoundary f.unicode), rest)
      | '<' => return (.look (.wordStart f.unicode), rest)
      | '>' => return (.look (.wordEnd f.unicode), rest)
      | _ => if isEscapable c then return (.char c false, rest) else .error .escapeUnknown

end StandardsGate.Regex
