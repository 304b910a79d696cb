import StandardsGate.Yaml.Cursor

/-!
The text of YAML scalars in their five spellings.

A line break inside a scalar is folded: a single one counts as a blank, further ones stand for
themselves. Block scalars keep or drop the breaks at their end as the indicator says.

Main definitions:

* `Yaml.Fault` — what can be wrong with a YAML text;
* `Yaml.readBlockScalar`, `Yaml.readQuoted`, `Yaml.readPlain` — the text of a scalar, and the place
  after it.
-/

namespace StandardsGate.Yaml

/-- The reasons for which a text is not YAML. -/
inductive Fault
  | characterNotAllowed
  | unexpectedCharacter
  | unfinished
  | badEscape
  | badIndentation
  | tabIndentation
  | badBlockHeader
  | misplacedEntry
  | misplacedKey
  | misplacedValue
  | keyWithoutValue
  | badDirective
  | badAnchor
  | badTag
  | unknownTagHandle
  | unknownAnchor
  | unexpectedToken
  | severalDocuments
  | tooDeep
  | tooManyAliases
  | repeatedKey
  | wrongType
  | missingField
  | badScalar
deriving DecidableEq, Repr

/-- The wording of a fault. -/
def Fault.message : Fault → String
  | characterNotAllowed => "control characters are not allowed"
  | unexpectedCharacter => "found character that cannot start any token"
  | unfinished => "found unexpected end of stream"
  | badEscape => "found unknown escape character"
  | badIndentation => "did not find expected key"
  | tabIndentation => "found a tab character that violates indentation"
  | badBlockHeader => "did not find expected comment or line break"
  | misplacedEntry => "block sequence entries are not allowed in this context"
  | misplacedKey => "mapping keys are not allowed in this context"
  | misplacedValue => "mapping values are not allowed in this context"
  | keyWithoutValue => "could not find expected ':'"
  | badDirective => "found unknown directive name"
  | badAnchor => "did not find expected alphabetic or numeric character"
  | badTag => "did not find expected tag URI"
  | unknownTagHandle => "found undefined tag handle"
  | unknownAnchor => "unknown anchor"
  | unexpectedToken => "did not find expected node content"
  | severalDocuments => "deserializing from YAML containing more than one document is not supported"
  | tooDeep => "recursion limit exceeded"
  | tooManyAliases => "repetition limit exceeded"
  | repeatedKey => "duplicate entry"
  | wrongType => "invalid type"
  | missingField => "missing field"
  | badScalar => "invalid value"

/-! ### Folding -/

/-- Blanks and line breaks met between two parts of a scalar: the blanks of the line so far, and,
once a break was met, the first break and those after it. -/
structure Gap where
  blanks : List Char := []
  broken : Bool := false
  first : List Char := []
  further : List Char := []

/-- What a gap adds to the text: its blanks, or its line breaks folded. -/
def Gap.text (g : Gap) : List Char :=
  if !g.broken then g.blanks
  else if g.first == ['\n'] then (if g.further.isEmpty then [' '] else g.further)
  else g.first ++ g.further

/-- Reads the blanks and line breaks ahead. In a plain scalar (`indent?` given) a tab must not stand
before the indentation of a continued line. `fuel` bounds the characters read. -/
def readGap (indent? : Option Int) : Nat → Gap → Cursor → Except Fault (Gap × Cursor)
  | 0, g, c => .ok (g, c)
  | fuel + 1, g, c =>
    if c.atBlank then
      if g.broken && c.at? '\t' && indent?.any (fun i => (c.column : Int) < i) then
        .error .tabIndentation
      else if g.broken then readGap indent? fuel g c.skip
      else readGap indent? fuel { g with blanks := g.blanks ++ c.rest.take 1 } c.skip
    else if c.atBreak then
      let (b, c) := c.takeBreak
      if g.broken then readGap indent? fuel { g with further := g.further ++ b } c
      else readGap indent? fuel { g with blanks := [], broken := true, first := b } c
    else .ok (g, c)

/-! ### Quoted scalars -/

/-- The character that one letter after a backslash stands for. -/
def escaped? (c : Char) : Option Char :=
  match c with
  | '0' => some (Char.ofNat 0)
  | 'a' => some '\x07'
  | 'b' => some '\x08'
  | 't' | '\t' => some '\t'
  | 'n' => some '\n'
  | 'v' => some '\x0B'
  | 'f' => some '\x0C'
  | 'r' => some '\r'
  | 'e' => some '\x1B'
  | ' ' => some ' '
  | '"' => some '"'
  | '/' => some '/'
  | '\\' => some '\\'
  | 'N' => some '\u0085'
  | '_' => some '\u00A0'
  | 'L' => some '\u2028'
  | 'P' => some '\u2029'
  | _ => none

/-- How many hexadecimal digits follow a letter after a backslash. -/
def codeLength? (c : Char) : Option Nat :=
  match c with
  | 'x' => some 2
  | 'u' => some 4
  | 'U' => some 8
  | _ => none

/-- The value of a hexadecimal digit. -/
def hexDigit? (c : Char) : Option Nat :=
  if '0' ≤ c && c ≤ '9' then some (c.toNat - '0'.toNat)
  else if 'a' ≤ c && c ≤ 'f' then some (c.toNat - 'a'.toNat + 10)
  else if 'A' ≤ c && c ≤ 'F' then some (c.toNat - 'A'.toNat + 10)
  else none

/-- The character of a code point written in hexadecimal digits. -/
def hexChar? (digits : List Char) : Option Char := do
  let n ← digits.foldlM (fun n c => (hexDigit? c).map (n * 16 + ·)) 0
  if h : n.isValidChar then some (Char.ofNatAux n h) else none

/-- Reads an escape after its backslash. -/
def readEscape (c : Cursor) : Except Fault (Char × Cursor) :=
  match c.rest with
  | [] => .error .badEscape
  | x :: rest =>
    match escaped? x, codeLength? x with
    | some y, _ => .ok (y, c.skip)
    | none, some n =>
      let digits := rest.take n
      if digits.length < n then .error .badEscape
      else match hexChar? digits with
        | some y => .ok (y, c.skipN (n + 1))
        | none => .error .badEscape
    | none, none => .error .badEscape

/-- Reads the characters of a quoted scalar up to a blank, a line break, the closing quote or an
escaped line break; `text` holds the characters read, last first. The last component says whether
an escaped line break ended the run. -/
def readQuotedRun (single : Bool) : Nat → List Char → Cursor →
    Except Fault (List Char × Cursor × Bool)
  | 0, text, c => .ok (text, c, false)
  | fuel + 1, text, c =>
    match c.rest with
    | [] => .ok (text, c, false)
    | x :: _ =>
      if isBlank x || isBreak x then .ok (text, c, false)
      else if single then
        if x = '\'' then
          if c.peekAt? 1 == some '\'' then readQuotedRun single fuel ('\'' :: text) (c.skipN 2)
          else .ok (text, c, false)
        else readQuotedRun single fuel (x :: text) c.skip
      else if x = '"' then .ok (text, c, false)
      else if x = '\\' then
        if c.skip.atBreak then .ok (text, c.skip.skipBreak, true)
        else do
          let (y, c) ← readEscape c.skip
          readQuotedRun single fuel (y :: text) c
      else readQuotedRun single fuel (x :: text) c.skip

/-- Reads a quoted scalar after its opening quote: runs of characters with gaps between them. -/
def readQuotedFrom (single : Bool) : Nat → List Char → Cursor → Except Fault (String × Cursor)
  | 0, _, _ => .error .unfinished
  | fuel + 1, text, c =>
    if c.atDocumentMarker then .error .unexpectedCharacter
    else if c.atEnd then .error .unfinished
    else do
      let (text, c, joined) ← readQuotedRun single (c.rest.length + 1) text c
      if c.at? (if single then '\'' else '"') then
        return (String.ofList text.reverse, c.skip)
      let (g, c) ← readGap none (c.rest.length + 1) { broken := joined } c
      readQuotedFrom single fuel (g.text.reverse ++ text) c

/-- Reads a quoted scalar from its opening quote. -/
def readQuoted (single : Bool) (c : Cursor) : Except Fault (String × Cursor) :=
  readQuotedFrom single (c.rest.length + 1) [] c.skip

/-! ### Plain scalars -/

/-- The signs that end a plain scalar inside brackets. -/
def isFlowSign (c : Char) : Bool := c == ',' || c == '[' || c == ']' || c == '{' || c == '}'

/-- Reads characters of a plain scalar up to a blank, a line break or a sign that ends it. -/
def readPlainRun (inFlow : Bool) : Nat → List Char → Cursor → Except Fault (List Char × Cursor)
  | 0, text, c => .ok (text, c)
  | fuel + 1, text, c =>
    match c.rest with
    | [] => .ok (text, c)
    | x :: _ =>
      if isBlank x || isBreak x then .ok (text, c)
      else if inFlow && x == ':' && (c.peekAt? 1).any (fun y => isFlowSign y || y == '?') then
        .error .unexpectedCharacter
      else if (x == ':' && c.blankOrEndAt 1) || (inFlow && isFlowSign x) then .ok (text, c)
      else readPlainRun inFlow fuel (x :: text) c.skip

/-- A plain scalar that was read: its text, the place after it, and whether that place is on a later
line than its last character. -/
structure PlainScalar where
  text : String
  after : Cursor
  lineEnded : Bool

/-- Reads a plain scalar, from a place where `gap` has been met since its last character. The
characters of a continued line stand at least at column `indent`, except inside brackets. -/
def readPlainFrom (inFlow : Bool) (indent : Int) : Nat → List Char → Gap → Cursor →
    Except Fault PlainScalar
  | 0, _, _, _ => .error .unfinished
  | fuel + 1, text, gap, c => do
    let stop (gap : Gap) (text : List Char) (c : Cursor) : PlainScalar :=
      ⟨String.ofList text.reverse, c, gap.broken⟩
    if c.atDocumentMarker || c.at? '#' then return stop gap text c
    let (run, c) ← readPlainRun inFlow (c.rest.length + 1) [] c
    let (text, gap) :=
      if run.isEmpty then (text, gap) else (run ++ gap.text.reverse ++ text, {})
    if !(c.atBlank || c.atBreak) then return stop gap text c
    let (gap, c) ← readGap (some indent) (c.rest.length + 1) gap c
    if !inFlow && (c.column : Int) < indent then return stop gap text c
    readPlainFrom inFlow indent fuel text gap c

/-- Reads a plain scalar. -/
def readPlain (inFlow : Bool) (indent : Int) (c : Cursor) : Except Fault PlainScalar :=
  readPlainFrom inFlow indent (c.rest.length + 1) [] {} c

/-! ### Block scalars -/

/-- What becomes of the line breaks at the end of a block scalar. -/
inductive Chomping
  | strip
  | clip
  | keep
deriving DecidableEq

/-- The header of a block scalar: what its end keeps, and the indentation it states. -/
structure BlockHeader where
  chomping : Chomping := .clip
  indent? : Option Nat := none

/-- The chomping that a sign asks for. -/
def chomping? (c : Option Char) : Option Chomping :=
  match c with
  | some '+' => some .keep
  | some '-' => some .strip
  | _ => none

/-- The indentation that a digit states: one to nine. -/
def readIndentDigit (c : Cursor) : Except Fault (Option Nat × Cursor) :=
  match c.peek? with
  | some d =>
    if d = '0' then .error .badBlockHeader
    else if d.isDigit then .ok (some (d.toNat - '0'.toNat), c.skip)
    else .ok (none, c)
  | none => .ok (none, c)

/-- Reads the header after the indicator: a sign and a digit in either order, then nothing but
blanks and a comment up to the line's end. -/
def readBlockHeader (c : Cursor) : Except Fault (BlockHeader × Cursor) := do
  let (header, c) ←
    match chomping? c.peek? with
    | some ch => do
      let (i, c) ← readIndentDigit c.skip
      pure (BlockHeader.mk ch i, c)
    | none => do
      let (i, c) ← readIndentDigit c
      match i, chomping? c.peek? with
      | some i, some ch => pure (BlockHeader.mk ch (some i), c.skip)
      | i, _ => pure (BlockHeader.mk .clip i, c)
  let c := c.skipBlanks
  let c := if c.at? '#' then c.skipLineRest else c
  if c.atBreakOrEnd then return (header, c.skipBreak) else .error .badBlockHeader

/-- Reads empty lines and the indentation of the line after them. `indent` is zero while the
indentation is not known yet. Answers the breaks read and the deepest column seen. -/
def readEmptyLines (indent : Nat) : Nat → List Char → Nat → Cursor →
    Except Fault (List Char × Nat × Cursor)
  | 0, breaks, deepest, c => .ok (breaks, deepest, c)
  | fuel + 1, breaks, deepest, c =>
    let spaces := (c.rest.takeWhile (· == ' ')).length
    let c := c.skipN (if indent = 0 then spaces else min spaces (indent - c.column))
    let deepest := max deepest c.column
    if (indent = 0 || c.column < indent) && c.at? '\t' then .error .tabIndentation
    else if c.atBreak then
      let (b, c) := c.takeBreak
      readEmptyLines indent fuel (breaks ++ b) deepest c
    else .ok (breaks, deepest, c)

/-- The state of reading a block scalar: its text (last first), the break after its last line, the
breaks of the empty lines after that, and whether the last line began with a blank. -/
structure BlockText where
  text : List Char := []
  lineBreak : List Char := []
  emptyLines : List Char
  ledByBlank : Bool := false

/-- Reads the lines of a block scalar. Where lines are folded, a break between two lines that begin
with no blank counts as a blank, or as nothing before empty lines. -/
def readBlockLines (folded : Bool) (indent : Nat) : Nat → BlockText → Cursor →
    Except Fault (BlockText × Cursor)
  | 0, b, c => .ok (b, c)
  | fuel + 1, b, c => do
    if c.column != indent || c.atEnd then return (b, c)
    let joint :=
      if folded && b.lineBreak == ['\n'] && !b.ledByBlank && !c.atBlank then
        (if b.emptyLines.isEmpty then [' '] else b.emptyLines)
      else b.lineBreak ++ b.emptyLines
    let ledByBlank := c.atBlank
    let (line, c) := c.takeWhile fun x => !isBreak x
    let (lineBreak, c) := c.takeBreak
    let (emptyLines, _, c) ← readEmptyLines indent (c.rest.length + 1) [] 0 c
    readBlockLines folded indent fuel
      ⟨line.reverse ++ joint.reverse ++ b.text, lineBreak, emptyLines, ledByBlank⟩ c

/-- Reads a block scalar from its indicator; `parent` is the indentation around it, `-1` at the top
level. An indentation that is not stated is that of the first line with content. -/
def readBlockScalar (folded : Bool) (parent : Int) (c : Cursor) :
    Except Fault (String × Cursor) := do
  let (header, c) ← readBlockHeader c.skip
  let stated := match header.indent? with
    | some i => if 0 ≤ parent then (parent + i).toNat else i
    | none => 0
  let (emptyLines, deepest, c) ← readEmptyLines stated (c.rest.length + 1) [] 0 c
  let indent := if stated = 0 then max deepest (max (parent + 1).toNat 1) else stated
  let (b, c) ← readBlockLines folded indent (c.rest.length + 1) { emptyLines } c
  let tail := match header.chomping with
    | .strip => []
    | .clip => b.lineBreak
    | .keep => b.lineBreak ++ b.emptyLines
  return (String.ofList (b.text.reverse ++ tail), c)

end StandardsGate.Yaml
