import StandardsGate.Checker.Settings
import StandardsGate.Diff.EditedFile

/-!
Checkers.

A checker inspects edited files and answers with messages. It is only shown the files whose
extension it is meant for, and is not run if there are none.

Main definitions:

* `Checker` — settings, own extensions, and the inspection;
* `Checker.accepts` — whether a checker is meant for a file;
* `Checker.checkFiles` — the messages for some files.
-/

namespace StandardsGate

/-- A checker that works with a state. -/
structure Checker (σ : Type) where
  settings : Settings
  /-- The extensions of the files to inspect if nothing else is declared. -/
  defaultExtensions : List String
  /-- The messages for files that the checker is meant for. -/
  inspect : List EditedFile → Action σ (List String)

namespace Checker

variable {σ : Type}

/-- The name under which a checker reports. -/
def name (c : Checker σ) : String := c.settings.name

/-- The extensions of the files that a checker is meant for. -/
def extensions (c : Checker σ) : List String := c.settings.extensions.getD c.defaultExtensions

/-- Whether a checker is meant for a file. -/
def accepts (c : Checker σ) (f : EditedFile) : Bool :=
  match f.extension? with
  | some e => c.extensions.contains e
  | none => false

/-- The messages for the files that a checker is meant for. -/
def checkFiles (c : Checker σ) (files : List EditedFile) : Action σ (List String) :=
  match files.filter c.accepts with
  | [] => return []
  | applicable => c.inspect applicable

/-- A checker is not run if it is meant for none of the files. -/
theorem checkFiles_of_eq_nil {c : Checker σ} {files : List EditedFile}
    (h : files.filter c.accepts = []) : c.checkFiles files = return [] := by
  rw [checkFiles, h]

/-- A checker inspects the files that it is meant for. -/
theorem checkFiles_of_ne_nil {c : Checker σ} {files : List EditedFile}
    (h : files.filter c.accepts ≠ []) : c.checkFiles files = c.inspect (files.filter c.accepts) := by
  unfold checkFiles
  split
  · contradiction
  · rfl

end Checker

end StandardsGate
