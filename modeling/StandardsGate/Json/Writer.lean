import StandardsGate.Json.Value

/-!
Writing JSON.

Main definitions:

* `Json.compact` — a value on one line, without blanks;
* `Json.pretty` — a value with one member or item a line, indented by two blanks a level.
-/

namespace StandardsGate.Json

/-- A hexadecimal digit in lower case. -/
def hexChar (n : Nat) : Char := if n < 10 then Char.ofNat (48 + n) else Char.ofNat (87 + n)

/-- A character as it stands in a JSON string. -/
def escapeChar (c : Char) : List Char :=
  match c with
  | '"' => ['\\', '"']
  | '\\' => ['\\', '\\']
  | '\x08' => ['\\', 'b']
  | '\x0C' => ['\\', 'f']
  | '\n' => ['\\', 'n']
  | '\r' => ['\\', 'r']
  | '\t' => ['\\', 't']
  | c =>
    if c.toNat < 0x20 then ['\\', 'u', '0', '0', hexChar (c.toNat / 16), hexChar (c.toNat % 16)]
    else [c]

/-- A text as a JSON string. -/
def quote (s : String) : List Char := '"' :: s.toList.flatMap escapeChar ++ ['"']

/-- Doubles are written positionally from `0.00001` on; exponents have a sign. -/
def layout : Double.Layout := ⟨-5, true⟩

/-- A double as a JSON number; infinities and `nan` have none and are written as null. -/
def floatText (x : Double) : List Char :=
  if x.isFinite then (x.toText layout).toList else "null".toList

mutual

/-- A value on one line. -/
def compactChars : Json → List Char
  | null => "null".toList
  | bool b => (if b then "true" else "false").toList
  | int n => (toString n).toList
  | float x => floatText x
  | str s => quote s
  | arr items => '[' :: compactItems items
  | obj members => '\x7b' :: compactMembers members

/-- The items of an array on one line, with the closing bracket. -/
def compactItems : List Json → List Char
  | [] => [']']
  | [v] => compactChars v ++ [']']
  | v :: rest => compactChars v ++ ',' :: compactItems rest

/-- The members of an object on one line, with the closing brace. -/
def compactMembers : List (String × Json) → List Char
  | [] => ['\x7d']
  | [(k, v)] => quote k ++ ':' :: compactChars v ++ ['\x7d']
  | (k, v) :: rest => quote k ++ ':' :: compactChars v ++ ',' :: compactMembers rest

end

/-- A value on one line. -/
def compact (v : Json) : String := String.ofList (compactChars v)

/-- A line feed and the indentation of a level. -/
def newLine (level : Nat) : List Char := '\n' :: List.replicate (2 * level) ' '

mutual

/-- A value over several lines, its first line standing at some level. -/
def prettyChars (level : Nat) : Json → List Char
  | arr [] => ['[', ']']
  | arr (v :: rest) => '[' :: prettyItems level (v :: rest)
  | obj [] => ['\x7b', '\x7d']
  | obj (m :: rest) => '\x7b' :: prettyMembers level (m :: rest)
  | null => "null".toList
  | bool b => (if b then "true" else "false").toList
  | int n => (toString n).toList
  | float x => floatText x
  | str s => quote s

/-- The items of an array, each on lines of its own, with the closing bracket. -/
def prettyItems (level : Nat) : List Json → List Char
  | [] => [']']
  | [v] => newLine (level + 1) ++ prettyChars (level + 1) v ++ newLine level ++ [']']
  | v :: rest => newLine (level + 1) ++ prettyChars (level + 1) v ++ ',' :: prettyItems level rest

/-- The members of an object, each on lines of its own, with the closing brace. -/
def prettyMembers (level : Nat) : List (String × Json) → List Char
  | [] => ['\x7d']
  | [(k, v)] =>
    newLine (level + 1) ++ quote k ++ [':', ' '] ++ prettyChars (level + 1) v ++ newLine level
      ++ ['\x7d']
  | (k, v) :: rest =>
    newLine (level + 1) ++ quote k ++ [':', ' '] ++ prettyChars (level + 1) v
      ++ ',' :: prettyMembers level rest

end

/-- A value with one member or item a line. -/
def pretty (v : Json) : String := String.ofList (prettyChars 0 v)

end StandardsGate.Json
