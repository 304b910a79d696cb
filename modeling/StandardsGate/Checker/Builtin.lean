import StandardsGate.Checker.ForbiddenWords
import StandardsGate.Checker.Registry
import StandardsGate.Lint.Checker

/-!
The checkers that there are.

Main definitions:

* `Registry.builtin` — the registry of the checkers that there are.
-/

namespace StandardsGate.Registry

/-- The checkers that there are: one for forbidden words and one that runs a linter. -/
def builtin : Registry Host :=
  (((Registry.empty.register "forbidden_words" ForbiddenWords.extensions fun s =>
      match ForbiddenWords.build Host s with
      | .ok c => return c
      | .error e => throw (.config e)).register
    "eslint" Linting.extensions Linting.buildWithGit).addAlias
    "pattern" "forbidden_words").addAlias
    "es_lint" "eslint"

end StandardsGate.Registry
