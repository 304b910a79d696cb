import StandardsGate.Regex.Fault

/-!
The flags that patterns set inline, as in `(?i)` or `(?s-u:…)`.

Main definitions:

* `Regex.Flags` — the flags in force at a place of the pattern;
* `Regex.readFlags` — reads a group's flag letters up to the closing `)` or `:`.
-/

namespace StandardsGate.Regex

/-- The flags in force at a place of a pattern. -/
structure Flags where
  /-- `i`: letters match in either case. -/
  ignoreCase : Bool := false
  /-- `m`: the anchors also match at line ends. -/
  multiLine : Bool := false
  /-- `s`: the dot matches a line feed too. -/
  dotAll : Bool := false
  /-- `U`: repetitions are lazy unless marked by a question mark. -/
  swapGreed : Bool := false
  /-- `u`: classes and boundaries know all of Unicode. -/
  unicode : Bool := true
  /-- `R`: a carriage return ends a line as well. -/
  crlf : Bool := false
  /-- `x`: blanks and comments in the pattern are skipped. -/
  verbose : Bool := false
deriving DecidableEq, Repr

/-- The flags with one letter switched on or off; `none` for a letter that is no flag. -/
def Flags.set? (f : Flags) (letter : Char) (on : Bool) : Option Flags :=
  match letter with
  | 'i' => some { f with ignoreCase := on }
  | 'm' => some { f with multiLine := on }
  | 's' => some { f with dotAll := on }
  | 'U' => some { f with swapGreed := on }
  | 'u' => some { f with unicode := on }
  | 'R' => some { f with crlf := on }
  | 'x' => some { f with verbose := on }
  | _ => none

/-- What a run of flag letters says: the new flags, whether a group body follows (`:`) or the run
stands alone (`)`), whether it named anything, and the rest of the pattern. -/
structure FlagRun where
  flags : Flags
  opensGroup : Bool
  isEmpty : Bool
  rest : List Char

/-- Reads flag letters. A letter, and the minus sign that switches the following ones off, may stand
only once; the minus sign needs a letter after it. -/
def readFlags (on dangling : Bool) (seen : List Char) (f : Flags) :
    List Char → Except Fault FlagRun
  | [] => .error .groupUnclosed
  | c :: rest =>
    if c = ':' || c = ')' then
      if dangling then .error .flagDangling else .ok ⟨f, c = ':', seen.isEmpty, rest⟩
    else if seen.contains c then .error .flagRepeated
    else if c = '-' then readFlags false true (c :: seen) f rest
    else match f.set? c on with
      | some f' => readFlags on false (c :: seen) f' rest
      | none => .error .flagUnknown

end StandardsGate.Regex
