/-!
A place in a YAML text.

Main definitions:

* `Yaml.Cursor` — the text ahead, with its line, column and distance from the start;
* `Yaml.Cursor.skip`, `Yaml.Cursor.takeBreak` — moving over a character or a line break.
-/

namespace StandardsGate.Yaml

/-- Whether a character may stand in a YAML text at all. -/
def isAllowed (c : Char) : Bool :=
  let n := c.toNat
  n == 0x09 || n == 0x0A || n == 0x0D || (0x20 ≤ n && n ≤ 0x7E) || n == 0x85 ||
    (0xA0 ≤ n && n ≤ 0xD7FF) || (0xE000 ≤ n && n ≤ 0xFFFD) || 0x10000 ≤ n

/-- Whether a character ends a line. -/
def isBreak (c : Char) : Bool :=
  c == '\r' || c == '\n' || c == '\u0085' || c == '\u2028' || c == '\u2029'

/-- A blank within a line. -/
def isBlank (c : Char) : Bool := c == ' ' || c == '\t'

/-- The letters of names of anchors, directives and tag handles. -/
def isNameChar (c : Char) : Bool := c.isAlphanum || c == '_' || c == '-'

/-- A place in the text: what lies ahead, the number of characters before it, its line and its
column. -/
structure Cursor where
  rest : List Char
  index : Nat := 0
  line : Nat := 0
  column : Nat := 0
deriving Inhabited

namespace Cursor

/-- The character ahead. -/
def peek? (c : Cursor) : Option Char := c.rest.head?

/-- The character `n` places further on. -/
def peekAt? (c : Cursor) (n : Nat) : Option Char := c.rest[n]?

/-- Whether nothing is left. -/
def atEnd (c : Cursor) : Bool := c.rest.isEmpty

/-- Whether a given character lies ahead. -/
def at? (c : Cursor) (x : Char) : Bool := c.rest.head? == some x

/-- Whether the place `n` characters on is a blank, a line break or the end. -/
def blankOrEndAt (c : Cursor) (n : Nat) : Bool := (c.rest[n]?).all fun x => isBlank x || isBreak x

/-- Whether a line break or the end lies ahead. -/
def atBreakOrEnd (c : Cursor) : Bool := c.rest.head?.all isBreak

/-- Whether a line break lies ahead. -/
def atBreak (c : Cursor) : Bool := c.rest.head?.any isBreak

/-- Whether a blank lies ahead. -/
def atBlank (c : Cursor) : Bool := c.rest.head?.any isBlank

/-- Moves over one character. -/
def skip (c : Cursor) : Cursor :=
  match c.rest with
  | [] => c
  | _ :: rest => { c with rest, index := c.index + 1, column := c.column + 1 }

/-- Moves over some characters of the line. -/
def skipN (c : Cursor) (n : Nat) : Cursor :=
  { c with rest := c.rest.drop n, index := c.index + n, column := c.column + n }

/-- Moves over the characters of the line that satisfy a condition; answers them too. -/
def takeWhile (c : Cursor) (p : Char → Bool) : List Char × Cursor :=
  let taken := c.rest.takeWhile p
  (taken, c.skipN taken.length)

/-- Moves over blanks. -/
def skipBlanks (c : Cursor) : Cursor := (c.takeWhile isBlank).2

/-- Moves over the rest of the line, the line break excluded. -/
def skipLineRest (c : Cursor) : Cursor := (c.takeWhile fun x => !isBreak x).2

/-- Moves over a line break and answers what it counts as in a text: a line feed, but the two
separators of Unicode stay themselves. Elsewhere nothing happens. -/
def takeBreak (c : Cursor) : List Char × Cursor :=
  let next (n : Nat) (rest : List Char) : Cursor := ⟨rest, c.index + n, c.line + 1, 0⟩
  match c.rest with
  | '\r' :: '\n' :: rest => (['\n'], next 2 rest)
  | '\r' :: rest | '\n' :: rest | '\u0085' :: rest => (['\n'], next 1 rest)
  | '\u2028' :: rest => (['\u2028'], next 1 rest)
  | '\u2029' :: rest => (['\u2029'], next 1 rest)
  | _ => ([], c)

/-- Moves over a line break. -/
def skipBreak (c : Cursor) : Cursor := c.takeBreak.2

/-- Whether a document marker stands here: three dashes or three dots at the start of a line,
followed by a blank, a line break or the end. -/
def atDocumentMarker (c : Cursor) : Bool :=
  c.column == 0 && (['-', '-', '-'].isPrefixOf c.rest || ['.', '.', '.'].isPrefixOf c.rest) &&
    c.blankOrEndAt 3

end Cursor

end StandardsGate.Yaml
