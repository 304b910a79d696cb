import StandardsGate.Checker.Checker
import StandardsGate.Standards.Config

/-!
The checkers that standards can name.

Main definitions:

* `Registry` — builders of checkers by identity, and other spellings of identities;
* `Registry.build` — the checker of an identity or of another spelling;
* `Registry.instantiate` — the checkers of a configuration.
-/

namespace StandardsGate

/-- How checkers of one identity are built. -/
structure Registration (σ : Type) where
  defaultExtensions : List String
  build : Settings → Action σ (Checker σ)

/-- Builders of checkers by identity, and other spellings of identities. -/
structure Registry (σ : Type) where
  entries : SortedMap (Registration σ)
  aliases : SortedMap String

namespace Registry

variable {σ : Type}

/-- The registry without checkers. -/
def empty : Registry σ := ⟨∅, ∅⟩

/-- Registers the checkers of an identity, in the place of those that were. -/
def register (r : Registry σ) (identity : String) (defaultExtensions : List String)
    (build : Settings → Action σ (Checker σ)) : Registry σ :=
  { r with entries := r.entries.insert identity ⟨defaultExtensions, build⟩ }

/-- Lets a text stand for an identity. -/
def addAlias (r : Registry σ) (spelling identity : String) : Registry σ :=
  { r with aliases := r.aliases.insert spelling identity }

/-- The identity that a spelling stands for. -/
def canonical (r : Registry σ) (spelling : String) : String :=
  (r.aliases.get? spelling).getD spelling

/-- The registration of an identity or of another spelling. -/
def resolve (r : Registry σ) (spelling : String) : Option (Registration σ) :=
  r.entries.get? (r.canonical spelling)

/-- The identities with the extensions of their checkers, sorted. -/
def identities (r : Registry σ) : List (String × List String) :=
  r.entries.entries.map fun e => (e.1, e.2.defaultExtensions)

/-- The other spellings with the identities that they stand for, sorted. -/
def spellings (r : Registry σ) : List (String × String) := r.aliases.entries

/-- Builds the checker of an identity or of another spelling. -/
def build (r : Registry σ) (spelling : String) (s : Settings) : Action σ (Checker σ) :=
  match r.resolve spelling with
  | some registration => registration.build s
  | none => throw (.config (.unknownChecker spelling s.name (r.identities.map (·.1))))

/-- The settings of a declared checker. -/
def declaredSettings (c : RunContext) (key : String) (d : CheckerDeclaration) : Settings :=
  { Settings.ofContext c with
    name := displayName key
    extensions := d.extensions
    options := d.options }

/-- Builds the declared checkers of one standard, in the order of declaration. -/
def buildDeclared (r : Registry σ) (c : RunContext) :
    List (String × CheckerDeclaration) → Action σ (List (Checker σ))
  | [] => return []
  | (key, d) :: rest => do
    let checker ← r.build d.identity (declaredSettings c key d)
    return checker :: (← r.buildDeclared c rest)

/-- Builds the checkers of the standards that declare some, in the order of declaration. -/
def buildStandards (r : Registry σ) (c : RunContext) :
    List (String × Standard) → Action σ (List (String × List (Checker σ)))
  | [] => return []
  | (name, s) :: rest => do
    match s.checkers.entries with
    | [] => r.buildStandards c rest
    | declared =>
      let checkers ← r.buildDeclared c declared
      return (name, checkers) :: (← r.buildStandards c rest)

/-- Builds every checker of a configuration: the standards that declare checkers, each with its
own. -/
def instantiate (r : Registry σ) (config : Config) (c : RunContext) :
    Action σ (List (String × List (Checker σ))) :=
  r.buildStandards c config.standards.entries

end Registry

end StandardsGate
