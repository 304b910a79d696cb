import StandardsGate.Standards.Config
import StandardsGate.Standards.Rules

/-!
Standards that can be used.

Main definitions:

* `Config.validate` — the first offence of a configuration, in the order of declaration;
* `Config.ofYaml` — the configuration of a text, validated.
-/

namespace StandardsGate.Config

/-- Rules must compile. -/
def validateRules (standard : String) (kind : RuleKind) (rules : List String) :
    Except ConfigError Unit :=
  match Rules.compile rules with
  | .ok _ => .ok ()
  | .error (rule, f) => .error (.invalidRule standard kind rule f)

/-- An extension must be given without a leading dot. -/
def validateExtension (standard checker extension : String) : Except ConfigError Unit :=
  match extension.toList with
  | [] => .error (.emptyExtension standard checker)
  | '.' :: _ => .error (.dottedExtension standard checker extension)
  | _ => .ok ()

/-- A declaration must name an implementation. -/
def validateDeclaration (standard checker : String) (d : CheckerDeclaration) :
    Except ConfigError Unit := do
  if Text.isAllBlank d.identity then throw (.unnamedChecker standard checker)
  (d.extensions.getD []).forM (validateExtension standard checker)

/-- The rules and the declarations of a standard must be usable. -/
def validateStandard (name : String) (s : Standard) : Except ConfigError Unit := do
  validateRules name .inclusion s.files
  validateRules name .exclusion s.exclude
  s.checkers.entries.forM fun e => validateDeclaration name e.1 e.2

/-- Every standard must be usable. -/
def validate (c : Config) : Except ConfigError Unit :=
  c.standards.entries.forM fun e => validateStandard e.1 e.2

/-- The configuration of a standards text. A blank text declares nothing. -/
def ofYaml (yaml : String) : Except ConfigError Config := do
  if Text.isAllBlank yaml then return ⟨∅⟩
  let c ← (decode yaml).mapError .malformedStandards
  validate c
  return c

end StandardsGate.Config
