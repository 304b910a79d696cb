import StandardsGate.Error

/-!
When a linter has failed.

Main definitions:

* `FaultPolicy` — which exit codes count as failures;
* `FaultPolicy.isFault` — whether one does.
-/

namespace StandardsGate

/-- Which exit codes of a linter count as failures. -/
inductive FaultPolicy
  /-- All but 0, and 1, which says that there are violations. -/
  | aboveOne
  /-- Only 2. -/
  | exactlyTwo
deriving DecidableEq, Repr, Inhabited

namespace FaultPolicy

/-- The policy of an option value, or the usual one. -/
def parse : Option String → Except ConfigError FaultPolicy
  | none => .ok .aboveOne
  | some value =>
    if value = "above_one" then .ok .aboveOne
    else if value = "exactly_two" then .ok .exactlyTwo
    else .error (.badPolicy value)

/-- Whether an exit code is a failure. A linter that was killed has failed. -/
def isFault (p : FaultPolicy) : Option Int → Bool
  | none => true
  | some code =>
    match p with
    | aboveOne => 1 < code || code < 0
    | exactlyTwo => code = 2

end FaultPolicy

end StandardsGate
