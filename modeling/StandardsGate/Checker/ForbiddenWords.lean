import StandardsGate.Checker.Checker

/-!
The checker for forbidden words.

It searches the added text of each file for a pattern.

Main definitions:

* `ForbiddenWords.message?` — the message for a file;
* `ForbiddenWords.build` — the checker for the pattern in some settings.
-/

namespace StandardsGate.ForbiddenWords

/-- The extensions of the files that are searched if nothing else is declared. -/
def extensions : List String := ["php", "js"]

/-- The message for a file: all that the pattern finds in its added text, in order. -/
def message? (pattern : Regex) (f : EditedFile) : Option String :=
  match pattern.findAll f.addedText with
  | [] => none
  | found =>
    some ("\"" ++ "\", \"".intercalate (found.map String.ofList) ++ "\" found in " ++ f.name)

/-- The pattern in some settings. -/
def patternOf (s : Settings) : Except ConfigError Regex := do
  let raw ← s.options.requireText s.name "pattern"
  (Pattern.compile raw).mapError (.badPattern s.name raw)

/-- The checker for a pattern. -/
def checker (σ : Type) (s : Settings) (pattern : Regex) : Checker σ where
  settings := s
  defaultExtensions := extensions
  inspect files := return files.filterMap (message? pattern)

/-- The checker for the pattern in some settings. -/
def build (σ : Type) (s : Settings) : Except ConfigError (Checker σ) := do
  return checker σ s (← patternOf s)

end StandardsGate.ForbiddenWords
