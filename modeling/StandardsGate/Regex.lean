import StandardsGate.Regex.Reader
import StandardsGate.Regex.Search

/-!
Regular expressions: compiled patterns and the texts that they find.

Main definitions:

* `Regex.compile` — a pattern ready for use, or the reason why it is none;
* `Regex.findAll` — the matched texts, leftmost first and without overlap.
-/

namespace StandardsGate

/-- A compiled pattern. -/
structure Regex where
  program : Regex.Program

namespace Regex

/-- Why a pattern cannot be used. -/
inductive Error
  | malformed (f : Fault)
  | tooLarge (limit : Nat)
deriving DecidableEq, Repr

/-- The wording of an error. -/
def Error.message : Error → String
  | malformed f => "regex parse error:\nerror: " ++ f.message
  | tooLarge limit => "Compiled regex exceeds size limit of " ++ toString limit ++ " bytes."

/-- Compiles a pattern. -/
def compile (pattern : String) : Except Error Regex :=
  match readPattern pattern with
  | .error f => .error (.malformed f)
  | .ok n => if weightLimit < n.weight then .error (.tooLarge weightLimit) else .ok ⟨.ofNode n⟩

/-- For every position of a text, where the preferred match from there ends. -/
def ends (r : Regex) (text : List Char) : List (Option Nat) :=
  r.program.ends Unicode.wordCharacters text

/-- The texts that a pattern finds: leftmost matches, preferred ones first, without overlap. -/
def findAll (r : Regex) (text : List Char) : List (List Char) :=
  (scan (r.ends text)).map fun m => (text.drop m.1).take (m.2 - m.1)

end Regex

end StandardsGate
