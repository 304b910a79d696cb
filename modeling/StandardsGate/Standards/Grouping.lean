import StandardsGate.Diff.EditedFile
import StandardsGate.Standards.Config
import StandardsGate.Standards.Rules

/-!
The files of each standard.

A file belongs to the first standard, in the order of declaration, that has a rule for it and no
rule against it. A file that no standard covers belongs nowhere.

Main definitions:

* `Assignment` — the compiled rules of every standard;
* `Assignment.groups` — the files of each standard that has some;
* `findFile` — the checked file that a tool reports on.
-/

namespace StandardsGate

/-- The compiled rules of a standard. -/
structure Matcher where
  standard : String
  inclusion : RuleSet
  exclusion : RuleSet
deriving Inhabited

/-- Whether a standard covers a path. -/
def Matcher.covers (m : Matcher) (path : String) : Bool :=
  m.inclusion.isMatch path && !m.exclusion.isMatch path

/-- The compiled rules of every standard, in the order of declaration. -/
structure Assignment where
  matchers : List Matcher
deriving Inhabited

/-- The files of a standard. -/
structure Group where
  standard : String
  files : List EditedFile
deriving Inhabited

namespace Assignment

/-- Compiles rules of a standard. -/
def compileRules (standard : String) (kind : RuleKind) (rules : List String) :
    Except ConfigError RuleSet :=
  (Rules.compile rules).mapError fun (rule, f) => .unusableRule standard kind rule f

/-- Compiles the rules of one standard. -/
def matcher (name : String) (s : Standard) : Except ConfigError Matcher := do
  let inclusion ← compileRules name .inclusion s.files
  let exclusion ← compileRules name .exclusion s.exclude
  return ⟨name, inclusion, exclusion⟩

/-- Compiles the rules of every standard. -/
def ofConfig (c : Config) : Except ConfigError Assignment :=
  (c.standards.entries.mapM fun e => matcher e.1 e.2).map Assignment.mk

/-- The standard that a path belongs to. -/
def standardOf? (a : Assignment) (path : String) : Option String :=
  (a.matchers.find? (·.covers path)).map (·.standard)

/-- The files of each standard that has some: the standards in the order of declaration, the files
in the order in which they came. -/
def groups (a : Assignment) (files : List EditedFile) : List Group :=
  (a.matchers.map fun m =>
    ⟨m.standard, files.filter fun f => a.standardOf? f.name = some m.standard⟩).filter
      fun g => !g.files.isEmpty

end Assignment

/-- The checked file of a name. A tool must not report on others. -/
def findFile (files : List EditedFile) (name : String) : Except InternalError EditedFile :=
  match files.find? (·.name == name) with
  | some f => .ok f
  | none => .error (.unknownFile name)

end StandardsGate
