import StandardsGate.Text.Decimal
import StandardsGate.Yaml.ScalarText

/-!
YAML texts as tokens.

Besides the signs and scalars that are written, the tokens hold what indentation only implies: the
start and end of every block collection. A mapping's key is recognised when the colon after it is
reached, so the scanner remembers where a *simple key* might have begun, one place for each level of
brackets, and puts the key's token there later.

Main definitions:

* `Yaml.Token` — the tokens;
* `Yaml.tokens` — all tokens of a text.
-/

namespace StandardsGate.Yaml

/-- The tokens of a YAML text. -/
inductive Token
  | version (major minor : Nat)
  | tagHandle (handle start : String)
  | documentStart
  | documentEnd
  | blockSeqStart
  | blockMapStart
  | blockEnd
  | flowSeqStart
  | flowSeqEnd
  | flowMapStart
  | flowMapEnd
  | blockEntry
  | flowEntry
  | key
  | value
  | alias (name : String)
  | anchor (name : String)
  | tag (handle suffix : String)
  | scalar (text : String) (plain : Bool)
  | streamEnd
deriving DecidableEq, Repr

/-- A place where a simple key might have begun: the index its token would have, the place itself,
and whether a key must stand there. -/
structure SimpleKey where
  token : Nat
  index : Nat
  line : Nat
  column : Nat
  required : Bool

/-- The scanner's state: where it is, the tokens so far, the current indentation with those around
it, whether a simple key may begin, and the possible key of each level of brackets, innermost
first. -/
structure Scanner where
  cursor : Cursor
  tokens : Array Token := #[]
  indent : Int := -1
  outer : List Int := []
  keyAllowed : Bool := true
  keys : List (Option SimpleKey) := [none]

namespace Scanner

/-- Whether the scanner is inside brackets. -/
def inFlow (s : Scanner) : Bool := 1 < s.keys.length

/-- Appends a token. -/
def emit (s : Scanner) (t : Token) : Scanner := { s with tokens := s.tokens.push t }

/-- Puts a token at an index. -/
def insertAt (s : Scanner) (i : Nat) (t : Token) : Scanner :=
  { s with tokens := s.tokens.insertIdxIfInBounds i t }

/-- Moves on to another place. -/
def moveTo (s : Scanner) (c : Cursor) : Scanner := { s with cursor := c }

/-- Moves over some characters of the line. -/
def skip (s : Scanner) (n : Nat) : Scanner := s.moveTo (s.cursor.skipN n)

/-- Allows or forbids a simple key at the next place. -/
def allowKey (s : Scanner) (allowed : Bool) : Scanner := { s with keyAllowed := allowed }

/-- How long a simple key may be. -/
def keyLength : Nat := 1024

/-- Forgets the possible keys that are too far back: on an earlier line or too many characters ago.
A required one must not be forgotten. -/
def dropStaleKeys (s : Scanner) : Except Fault Scanner := do
  let stale (k : SimpleKey) : Bool :=
    k.line < s.cursor.line || k.index + keyLength < s.cursor.index
  let keys ← s.keys.mapM fun k =>
    match k with
    | some k =>
      if !stale k then .ok (some k) else if k.required then .error .keyWithoutValue else .ok none
    | none => .ok none
  return { s with keys }

/-- Forgets the possible key of the current level. -/
def removeKey (s : Scanner) : Except Fault Scanner :=
  match s.keys with
  | some k :: rest => if k.required then .error .keyWithoutValue
    else .ok { s with keys := none :: rest }
  | _ => .ok s

/-- Remembers that a simple key may begin here. It has to be one where the place is that of the
keys of the block mapping around it. -/
def saveKey (s : Scanner) : Except Fault Scanner := do
  if !s.keyAllowed then return s
  let s ← s.removeKey
  let c := s.cursor
  let required := !s.inFlow && s.indent == (c.column : Int)
  let k : SimpleKey := ⟨s.tokens.size, c.index, c.line, c.column, required⟩
  return { s with keys := some k :: s.keys.drop 1 }

/-- Begins a block collection if the column is deeper than the current indentation; its token goes
to the given index. -/
def rollIndent (s : Scanner) (column : Nat) (i : Nat) (t : Token) : Scanner :=
  if s.inFlow || (column : Int) ≤ s.indent then s
  else { s.insertAt i t with indent := column, outer := s.indent :: s.outer }

/-- How many of the open block collections are deeper than a column. -/
def closing (column : Int) (indent : Int) (outer : List Int) : Nat × Int × List Int :=
  match outer with
  | [] => (0, indent, [])
  | next :: rest =>
    if column < indent then
      let (n, indent, outer) := closing column next rest
      (n + 1, indent, outer)
    else (0, indent, next :: rest)

/-- Ends the block collections that are deeper than a column. -/
def unrollIndent (s : Scanner) (column : Int) : Scanner :=
  if s.inFlow then s
  else
    let (n, indent, outer) := closing column s.indent s.outer
    { s with tokens := s.tokens ++ Array.replicate n Token.blockEnd, indent, outer }

/-! ### Between tokens -/

/-- Moves over blanks, comments and line breaks up to the next token. A byte order mark may begin a
line. In block context a tab is no blank where a simple key may begin, and a line break allows
one. -/
def toNextToken : Nat → Scanner → Scanner
  | 0, s => s
  | fuel + 1, s =>
    let c := s.cursor
    let c := if c.column = 0 && c.at? '\uFEFF' then c.skip else c
    let tabs := s.inFlow || !s.keyAllowed
    let c := (c.takeWhile fun x => x == ' ' || (tabs && x == '\t')).2
    let c := if c.at? '#' then c.skipLineRest else c
    if c.atBreak then
      toNextToken fuel { s with cursor := c.skipBreak, keyAllowed := s.keyAllowed || !s.inFlow }
    else s.moveTo c

/-! ### Directives, anchors and tags -/

/-- Reads a version number of at most nine digits. -/
def readVersionNumber (c : Cursor) : Except Fault (Nat × Cursor) :=
  let (ds, c) := c.takeWhile Char.isDigit
  if ds.isEmpty || 9 < ds.length then .error .badDirective
  else .ok (Text.decimalValue ds, c)

/-- Reads a tag handle: an exclamation mark, a name, and another exclamation mark. In a tag the
second mark may be missing, and then this is no handle but the start of a suffix. -/
def readHandle (directive : Bool) (c : Cursor) : Except Fault (List Char × Cursor) := do
  if !c.at? '!' then .error .badTag
  let (name, c) := c.skip.takeWhile isNameChar
  if c.at? '!' then return ('!' :: name ++ ['!'], c.skip)
  if directive && !name.isEmpty then .error .badTag
  return ('!' :: name, c)

/-- The signs that may stand in a tag besides letters and digits. -/
def isUriSign (c : Char) : Bool := ";/?:@&=+$.%!~*'()".toList.contains c

/-- The number of bytes of a character, from its first byte. -/
def byteWidth (b : Nat) : Nat :=
  if b < 0x80 then 1 else if 0xC0 ≤ b && b < 0xE0 then 2 else if 0xE0 ≤ b && b < 0xF0 then 3
  else if 0xF0 ≤ b && b < 0xF8 then 4 else 0

/-- The value of one percent escape. -/
def percentByte? (cs : List Char) : Option Nat :=
  match cs with
  | '%' :: a :: b :: _ => do return (← hexDigit? a) * 16 + (← hexDigit? b)
  | _ => none

/-- Reads `n` percent escapes that continue a character. -/
def readContinuations : Nat → Nat → Cursor → Except Fault (Nat × Cursor)
  | 0, bits, c => .ok (bits, c)
  | n + 1, bits, c =>
    match percentByte? c.rest with
    | some b =>
      if b / 64 = 2 then readContinuations n (bits * 64 + b % 64) (c.skipN 3) else .error .badTag
    | none => .error .badTag

/-- Reads a character written in percent escapes. -/
def readPercent (c : Cursor) : Except Fault (Char × Cursor) := do
  match percentByte? c.rest with
  | none => .error .badTag
  | some b =>
    let w := byteWidth b
    if w = 0 then .error .badTag
    let bits := if w = 1 then b else if w = 2 then b % 32 else if w = 3 then b % 16 else b % 8
    let (n, c) ← readContinuations (w - 1) bits (c.skipN 3)
    return (Char.ofNat n, c)

/-- Reads the characters of a tag; brackets and commas count only inside angle brackets. -/
def readUri (verbatim : Bool) : Nat → List Char → Cursor → Except Fault (List Char × Cursor)
  | 0, acc, c => .ok (acc.reverse, c)
  | fuel + 1, acc, c =>
    match c.rest with
    | [] => .ok (acc.reverse, c)
    | x :: _ =>
      if x = '%' then do
        let (y, c) ← readPercent c
        readUri verbatim fuel (y :: acc) c
      else if isNameChar x || isUriSign x || (verbatim && (x == ',' || x == '[' || x == ']')) then
        readUri verbatim fuel (x :: acc) c.skip
      else .ok (acc.reverse, c)

/-- Reads the characters of a tag, of which there must be one. -/
def readUri₁ (verbatim : Bool) (c : Cursor) : Except Fault (String × Cursor) := do
  let (uri, c) ← readUri verbatim (c.rest.length + 1) [] c
  if uri.isEmpty then .error .badTag else return (String.ofList uri, c)

/-- Reads a directive line. -/
def readDirective (c : Cursor) : Except Fault (Token × Cursor) := do
  let (name, c) := c.skip.takeWhile isNameChar
  if !c.blankOrEndAt 0 then .error .badDirective
  let (t, c) ←
    if name == "YAML".toList then do
      let (major, c) ← readVersionNumber c.skipBlanks
      if !c.at? '.' then .error .badDirective
      let (minor, c) ← readVersionNumber c.skip
      pure (Token.version major minor, c)
    else if name == "TAG".toList then do
      let (handle, c) ← readHandle true c.skipBlanks
      if !c.atBlank then .error .badDirective
      let (start, c) ← readUri₁ true c.skipBlanks
      if !c.blankOrEndAt 0 then .error .badDirective
      pure (Token.tagHandle (String.ofList handle) start, c)
    else .error .badDirective
  let c := c.skipBlanks
  let c := if c.at? '#' then c.skipLineRest else c
  if c.atBreakOrEnd then return (t, c.skipBreak) else .error .badDirective

/-- The signs that may follow the name of an anchor directly. -/
def endsName (c : Cursor) : Bool :=
  c.blankOrEndAt 0 || c.rest.head?.any fun x => "?:,]\x7d%@`".toList.contains x

/-- Reads the name of an anchor or an alias. -/
def readName (c : Cursor) : Except Fault (String × Cursor) :=
  let (name, c) := c.skip.takeWhile isNameChar
  if name.isEmpty || !endsName c then .error .badAnchor else .ok (String.ofList name, c)

/-- Reads a tag: in angle brackets, with a handle, or with the plain exclamation mark. -/
def readTag (inFlow : Bool) (c : Cursor) : Except Fault (Token × Cursor) := do
  let (t, c) ←
    if c.peekAt? 1 == some '<' then do
      let (uri, c) ← readUri₁ true (c.skipN 2)
      if c.at? '>' then pure (Token.tag "" uri, c.skip) else .error .badTag
    else do
      let (handle, c) ← readHandle false c
      if 2 ≤ handle.length && handle.getLast? == some '!' then do
        let (uri, c) ← readUri₁ false c
        pure (Token.tag (String.ofList handle) uri, c)
      else do
        let (uri, c) ← readUri false (c.rest.length + 1) [] c
        let suffix := handle.drop 1 ++ uri
        pure (if suffix.isEmpty then Token.tag "" "!" else Token.tag "!" (String.ofList suffix), c)
  if c.blankOrEndAt 0 || (inFlow && c.at? ',') then return (t, c) else .error .badTag

/-! ### The next token -/

/-- Ends all block collections and forbids keys, as directives and document markers do. -/
def leaveBlocks (s : Scanner) : Except Fault Scanner := do
  return (← (s.unrollIndent (-1)).removeKey).allowKey false

/-- Opens brackets. -/
def openFlow (s : Scanner) (t : Token) : Except Fault Scanner := do
  let s ← s.saveKey
  return ({ s with keys := none :: s.keys, keyAllowed := true }.emit t).skip 1

/-- Closes brackets. -/
def closeFlow (s : Scanner) (t : Token) : Except Fault Scanner := do
  let s ← s.removeKey
  let keys := if s.inFlow then s.keys.drop 1 else s.keys
  return ({ s with keys, keyAllowed := false }.emit t).skip 1

/-- The dash of a block entry. -/
def blockEntry (s : Scanner) : Except Fault Scanner := do
  if !s.inFlow && !s.keyAllowed then .error .misplacedEntry
  let s := s.rollIndent s.cursor.column s.tokens.size .blockSeqStart
  return (((← s.removeKey).allowKey true).emit .blockEntry).skip 1

/-- The question mark of an explicit key. -/
def explicitKey (s : Scanner) : Except Fault Scanner := do
  if !s.inFlow && !s.keyAllowed then .error .misplacedKey
  let s := s.rollIndent s.cursor.column s.tokens.size .blockMapStart
  return (((← s.removeKey).allowKey (!s.inFlow)).emit .key).skip 1

/-- The colon before a value. If a simple key may have begun, it did, and its token goes there. -/
def value (s : Scanner) : Except Fault Scanner := do
  match s.keys with
  | some k :: rest =>
    let s := { s.insertAt k.token .key with keys := none :: rest }
    let s := s.rollIndent k.column k.token .blockMapStart
    return ((s.allowKey false).emit .value).skip 1
  | _ =>
    if !s.inFlow && !s.keyAllowed then .error .misplacedValue
    let s := s.rollIndent s.cursor.column s.tokens.size .blockMapStart
    return ((s.allowKey (!s.inFlow)).emit .value).skip 1

/-- A token read at the place where a simple key may begin. -/
def keyLike (s : Scanner) (read : Cursor → Except Fault (Token × Cursor)) :
    Except Fault Scanner := do
  let s ← s.saveKey
  let (t, c) ← read s.cursor
  return ((s.allowKey false).emit t).moveTo c

/-- A block scalar. -/
def blockScalar (s : Scanner) (folded : Bool) : Except Fault Scanner := do
  let s ← s.removeKey
  let (text, c) ← readBlockScalar folded s.indent s.cursor
  return ((s.allowKey true).emit (.scalar text false)).moveTo c

/-- A plain scalar. A key may begin after it if it ended with its line. -/
def plainScalar (s : Scanner) : Except Fault Scanner := do
  let s ← s.saveKey
  let p ← readPlain s.inFlow (s.indent + 1) s.cursor
  return ((s.allowKey p.lineEnded).emit (.scalar p.text true)).moveTo p.after

/-- The signs that cannot begin a plain scalar. -/
def isIndicator (c : Char) : Bool := "-?:,[]\x7b\x7d#&*!|>'\"%@`".toList.contains c

/-- Whether a plain scalar begins here. A dash, a question mark or a colon begins one if no blank
follows; inside brackets that holds for the dash only. -/
def beginsPlain (inFlow : Bool) (x : Char) (c : Cursor) : Bool :=
  (!isIndicator x && !isBlank x) ||
    (x == '-' && !(c.peekAt? 1).any isBlank) ||
    (!inFlow && (x == '?' || x == ':') && !c.blankOrEndAt 1)

/-- The end of the text. -/
def finish (s : Scanner) : Except Fault Scanner := do
  return (← s.leaveBlocks).emit .streamEnd

/-- Scans the token that begins with the character `x` ahead. -/
def scanToken (s : Scanner) (x : Char) : Except Fault Scanner := do
  let c := s.cursor
  let named (make : String → Token) (c : Cursor) : Except Fault (Token × Cursor) := do
    let (name, c) ← readName c
    return (make name, c)
  let quoted (single : Bool) (c : Cursor) : Except Fault (Token × Cursor) := do
    let (text, c) ← readQuoted single c
    return (.scalar text false, c)
  if c.column = 0 && x = '%' then
    let s ← s.leaveBlocks
    let (t, c) ← readDirective c
    return (s.emit t).moveTo c
  else if c.atDocumentMarker then
    return ((← s.leaveBlocks).emit (if x = '-' then .documentStart else .documentEnd)).skip 3
  else match x with
    | '[' => s.openFlow .flowSeqStart
    | '{' => s.openFlow .flowMapStart
    | ']' => s.closeFlow .flowSeqEnd
    | '}' => s.closeFlow .flowMapEnd
    | ',' => return (((← s.removeKey).allowKey true).emit .flowEntry).skip 1
    | '*' => s.keyLike (named .alias)
    | '&' => s.keyLike (named .anchor)
    | '!' => s.keyLike (readTag s.inFlow)
    | '\'' => s.keyLike (quoted true)
    | '"' => s.keyLike (quoted false)
    | x =>
      if x = '-' && c.blankOrEndAt 1 then s.blockEntry
      else if x = '?' && (s.inFlow || c.blankOrEndAt 1) then s.explicitKey
      else if x = ':' && (s.inFlow || c.blankOrEndAt 1) then s.value
      else if x = '|' && !s.inFlow then s.blockScalar false
      else if x = '>' && !s.inFlow then s.blockScalar true
      else if beginsPlain s.inFlow x c then s.plainScalar
      else .error .unexpectedCharacter

/-- Scans tokens to the end of the text. Every token takes a character, which bounds their
number. -/
def run : Nat → Scanner → Except Fault (List Token)
  | 0, _ => .error .unfinished
  | fuel + 1, s => do
    let s := s.toNextToken (s.cursor.rest.length + 1)
    let s ← s.dropStaleKeys
    let s := s.unrollIndent s.cursor.column
    match s.cursor.peek? with
    | none => return (← s.finish).tokens.toList
    | some x => run fuel (← s.scanToken x)

end Scanner

/-- All tokens of a text. -/
def tokens (text : String) : Except Fault (List Token) :=
  let cs := text.toList
  if cs.all isAllowed then Scanner.run (cs.length + 2) { cursor := ⟨cs, 0, 0, 0⟩ }
  else .error .characterNotAllowed

end StandardsGate.Yaml
