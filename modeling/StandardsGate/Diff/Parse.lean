import StandardsGate.Diff.EditedFile
import StandardsGate.Diff.HunkHeader
import StandardsGate.Text.Blank
import StandardsGate.Text.Lines

/-!
Diffs without context.

A diff is a text of lines. A line that begins with `+++ b/` begins the section of a file; what
stands before the first one does not count. In a section a hunk header gives the number of the next
added line, and every line behind it that begins with a plus sign is an added line. The lines of a
hunk whose header gives no number are counted from 0.

Main definitions:

* `Diff` — the edited files of a diff, and the hunks whose headers could not be read;
* `Diff.sections` — the sections of lines;
* `Diff.parse` — the diff of a text; it fails only if a line number gets too large.
-/

namespace StandardsGate

/-- A hunk whose header gives no number. -/
structure MalformedHunk where
  file : String
  header : String
deriving DecidableEq, Repr

/-- The edited files of a diff, and the hunks whose headers could not be read. -/
structure Diff where
  files : EditedFiles
  malformed : List MalformedHunk
deriving Inhabited

namespace Diff

/-- A line number of more than 64 bits. -/
structure LineOverflow where
  file : String
deriving DecidableEq, Repr

/-- What the line begins with that names a section's file. -/
def fileMarker : List Char := ['+', '+', '+', ' ', 'b', '/']

/-- What follows the marker in a line that names a section's file. -/
def pathOf? (line : List Char) : Option (List Char) :=
  if fileMarker.isPrefixOf line then some (line.drop fileMarker.length) else none

/-- The section of a file: the path as it is written, and the lines behind it. -/
structure Section where
  path : List Char
  body : List (List Char)
deriving DecidableEq, Repr

/-- The lines before the first section, and the sections. -/
def cut : List (List Char) → List (List Char) × List Section
  | [] => ([], [])
  | line :: rest =>
    let (body, later) := cut rest
    match pathOf? line with
    | some path => ([], ⟨path, body⟩ :: later)
    | none => (line :: body, later)

/-- The sections of the lines of a diff. -/
def sections (lines : List (List Char)) : List Section := (cut lines).2

/-- The name of a section's file: the path without blanks at its ends, with slashes. -/
def Section.name (s : Section) : String := String.ofList (Path.slashed (Text.trimChars s.path))

/-- The added lines of a section, and the headers that give no number. -/
structure Edits where
  lines : List (Nat × String)
  badHeaders : List String
deriving DecidableEq, Repr, Inhabited

/-- Reads the lines of a section; `next` is the number of the next added line, once a hunk has
begun. The answer is `none` if a number gets too large. -/
def readBody (next : Option Nat) : List (List Char) → Option Edits
  | [] => some ⟨[], []⟩
  | line :: rest =>
    if HunkHeader.isHeader line then
      match HunkHeader.newStart? line with
      | some start => readBody (some start) rest
      | none =>
        (readBody (some 0) rest).map fun e => ⟨e.lines, String.ofList line :: e.badHeaders⟩
    else match next, line with
      | some number, '+' :: text =>
        if number < HunkHeader.numberLimit then
          (readBody (some (number + 1)) rest).map fun e =>
            ⟨(number, String.ofList text) :: e.lines, e.badHeaders⟩
        else none
      | _, _ => readBody next rest

/-- Adds what a section says to a diff. -/
def addSection (d : Diff) (s : Section) : Except LineOverflow Diff :=
  match readBody none s.body with
  | none => .error ⟨s.name⟩
  | some e => .ok {
      files := d.files.push ((EditedFile.new s.name).registerAll e.lines)
      malformed := d.malformed ++ e.badHeaders.map fun h => ⟨s.name, h⟩ }

/-- The diff of a text. -/
def parseChars (cs : List Char) : Except LineOverflow Diff :=
  (sections (Text.splitOn '\n' cs)).foldlM addSection ⟨∅, []⟩

/-- The diff of a text. -/
def parse (text : String) : Except LineOverflow Diff := parseChars text.toList

/-- Whether every hunk header could be read. -/
def isClean (d : Diff) : Bool := d.malformed.isEmpty

end Diff

end StandardsGate
