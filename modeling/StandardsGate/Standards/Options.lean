import StandardsGate.Error
import StandardsGate.SortedMap
import StandardsGate.Yaml.Value

/-!
The options of a checker.

Main definitions:

* `Options` — values by key;
* `Options.text?`, `Options.requireText`, `Options.positive?` — an option as a text or a number.
-/

namespace StandardsGate

/-- Option values by key. -/
abbrev Options := SortedMap Yaml.Value

namespace Options

/-- The text of an option; `none` if the option is absent or no text. -/
def text? (o : Options) (key : String) : Option String := (o.get? key).bind Yaml.Value.str?

/-- The text of an option that a checker needs. -/
def requireText (o : Options) (checker key : String) : Except ConfigError String :=
  match o.get? key with
  | none => .error (.missingOption checker key)
  | some v =>
    match v.str? with
    | some s => .ok s
    | none => .error (.notText checker key)

/-- The number of an option that, if it is there, is a whole number above zero. -/
def positive? (o : Options) (checker key : String) : Except ConfigError (Option Nat) :=
  match o.get? key with
  | none => .ok none
  | some v =>
    match v.nat? with
    | some (n + 1) => .ok (some (n + 1))
    | _ => .error (.notPositive checker key)

end Options

end StandardsGate
