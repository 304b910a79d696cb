import StandardsGate.Glob.Reader
import StandardsGate.Path
import StandardsGate.Text.Blank
import StandardsGate.Text.Utf8

/-!
Path rules.

A rule is a glob pattern, with slashes in the place of backslashes; a rule that ends in a slash
stands for everything below that directory. A blank rule is none.

Main definitions:

* `Rules.pattern?` — the glob pattern of a rule;
* `Rules.compile` — the compiled patterns of rules;
* `RuleSet.isMatch` — whether a path matches one of them.
-/

namespace StandardsGate

/-- Compiled path rules. -/
structure RuleSet where
  globs : List Glob
deriving Inhabited

/-- Whether a path matches one of the rules. -/
def RuleSet.isMatch (r : RuleSet) (path : String) : Bool :=
  let bytes := Utf8.encode path
  r.globs.any (·.isMatch bytes)

namespace Rules

/-- The glob pattern of a rule; `none` for a blank rule. -/
def pattern? (rule : String) : Option String :=
  let cs := Path.slashed (Text.trimChars rule.toList)
  match cs.getLast? with
  | none => none
  | some '/' => some (String.ofList (cs ++ ['*', '*']))
  | some _ => some (String.ofList cs)

/-- Compiles glob patterns; the first that is none comes with its fault. -/
def compilePatterns : List String → Except (String × Glob.Fault) (List Glob)
  | [] => .ok []
  | p :: rest =>
    match Glob.parse p with
    | .error f => .error (p, f)
    | .ok g => (compilePatterns rest).map (g :: ·)

/-- Compiles rules; the first that does not compile comes with its fault. -/
def compile (rules : List String) : Except (String × Glob.Fault) RuleSet :=
  (compilePatterns (rules.filterMap pattern?)).map RuleSet.mk

end Rules

end StandardsGate
