import StandardsGate.Text.Decimal

/-!
Hunk headers.

A hunk header such as `@@ -4,0 +5,2 @@ heading` says where the added lines begin in the new file.

Main definitions:

* `HunkHeader.isHeader` — whether a line is a hunk header;
* `HunkHeader.newStart?` — the number of the first added line.
-/

namespace StandardsGate.HunkHeader

/-- What a hunk header begins with. -/
def marker : List Char := ['@', '@']

/-- Whether a line is a hunk header, well formed or not. -/
def isHeader (line : List Char) : Bool := marker.isPrefixOf line

/-- Line numbers have 64 bits. -/
def numberLimit : Nat := UInt64.size

/-- Drops a count such as `,2`, if there is one. -/
def dropCount (cs : List Char) : List Char :=
  match cs with
  | ',' :: rest =>
    let after := rest.dropWhile Char.isDigit
    if after.length = rest.length then cs else after
  | _ => cs

/-- The number at the front of what follows a plus sign: digits, perhaps a count, and the end of
the header's ranges. -/
def rangeStart? (cs : List Char) : Option Nat :=
  let ds := cs.takeWhile Char.isDigit
  if ds.isEmpty then none
  else if [' ', '@', '@'].isPrefixOf (dropCount (cs.dropWhile Char.isDigit)) then
    some (Text.decimalValue ds)
  else none

/-- The number behind the first plus sign that begins a range of the new file. -/
def firstStart? : List Char → Option Nat
  | [] => none
  | c :: rest =>
    match if c = '+' then rangeStart? rest else none with
    | some n => some n
    | none => firstStart? rest

/-- The number of a hunk's first added line; `none` if the header gives none, or one that is too
large. -/
def newStart? (header : List Char) : Option Nat :=
  match firstStart? header with
  | some n => if n < numberLimit then some n else none
  | none => none

end StandardsGate.HunkHeader
