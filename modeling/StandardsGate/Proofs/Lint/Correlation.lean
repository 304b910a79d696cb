import StandardsGate.Lint.Checker
import StandardsGate.Proofs.Host.Walking
import StandardsGate.Proofs.Lint.Staging
import StandardsGate.Proofs.OrderedMap

/-!
Which messages of a linter are kept.

The linter is replaced by a script: the staged content of each file, and an answer to each call.
The state notes what the linter is asked. Files are linted one after the other; each is asked about
once, and the first failure ends the run. What a file comes to is said by a relation with one case
for each way in which its linting can end.

Main definitions:

* `Linting.Script` — the staged contents and the answers, and the collaborators that they make;
* `Linting.Script.Asks` — what is asked about a file;
* `Linting.Script.Outcome` — what linting a file comes to;
* `Linting.Script.Ends` — how linting files one after the other ends.

Main results:

* `Linting.Script.Outcome.unique`, `Linting.Script.Ends.unique` — a file comes to one thing, and a
  run ends in one way;
* `Linting.run_lintOne` — **one file**;
* `Linting.run_lintAll` — **all files**, up to the first failure;
* `Linting.run_checkFiles` — **what the checker answers**.
-/

namespace StandardsGate

namespace Linting

/-! ### Scripts -/

/-- The state: the host, and what the linter was asked. -/
abbrev Asked := Host × List LintRequest

/-- What the collaborators of a checker answer. -/
structure Script where
  /-- The staged content of a file. -/
  index : String → Except Error Bytes
  /-- The linter's answer after a number of calls. -/
  answers : Nat → Except Error ToolOutput
  /-- The linter in messages. -/
  describe : String

namespace Script

/-- The collaborators that answer by a script. -/
def collaborators (t : Script) : Collaborators Asked where
  stagedContent name := fun w => (t.index name, w)
  lint request := fun w => (t.answers w.2.length, (w.1, w.2 ++ [request]))
  describe := t.describe

/-- What the linter is asked about a file: its staged content, with the copy of the configuration
and the name of the file. -/
def Asks (t : Script) (copy : Path) (f : EditedFile) (r : LintRequest) : Prop :=
  t.index f.name = .ok r.content ∧ r.config = copy ∧ r.file = f.name

/-- The messages of a report about added lines of a file, in the order of the report. -/
def messagesOn (g : EditedFile) (report : FileReport) : List String :=
  report.messages.filterMap fun m =>
    m.line.bind fun n =>
      if n ∈ g.lines.keys then some (m.message ++ " in " ++ g.name ++ " on line " ++ toString n)
      else none

variable (t : Script) (policy : FaultPolicy) (h : Host) (root : Path) (files : List EditedFile)

/-- What linting a file comes to at a call of the linter. A report may be about any of `files`. -/
inductive Outcome (call : Nat) (f : EditedFile) : Except Error (List String) → Prop
  /-- The index has no content. -/
  | unstaged {e} (hindex : t.index f.name = .error e) : Outcome call f (.error e)
  /-- The linter gives no answer. -/
  | unanswered {content e} (hindex : t.index f.name = .ok content)
      (hanswer : t.answers call = .error e) : Outcome call f (.error e)
  /-- The exit code is a fault, whatever the output says. -/
  | fault {content answer} (hindex : t.index f.name = .ok content)
      (hanswer : t.answers call = .ok answer) (hfault : policy.isFault answer.exitCode = true) :
      Outcome call f (.error (.tool (.failed (answer.describeFailure t.describe))))
  /-- The output is no report. -/
  | unreadable {content answer e} (hindex : t.index f.name = .ok content)
      (hanswer : t.answers call = .ok answer) (hfault : policy.isFault answer.exitCode = false)
      (hreport : FileReport.parse answer.output = .error e) : Outcome call f (.error (.internal e))
  /-- Nothing is reported. -/
  | silent {content answer} (hindex : t.index f.name = .ok content)
      (hanswer : t.answers call = .ok answer) (hfault : policy.isFault answer.exitCode = false)
      (hreport : FileReport.parse answer.output = .ok none) : Outcome call f (.ok [])
  /-- The report is about none of the files. -/
  | unknown {content answer report} (hindex : t.index f.name = .ok content)
      (hanswer : t.answers call = .ok answer) (hfault : policy.isFault answer.exitCode = false)
      (hreport : FileReport.parse answer.output = .ok (some report))
      (hnone : relativize h report.path root ∉ files.map EditedFile.name) :
      Outcome call f (.error (.internal (.unknownFile (relativize h report.path root))))
  /-- The report is about one of the files. -/
  | reported {content answer report g} (hindex : t.index f.name = .ok content)
      (hanswer : t.answers call = .ok answer) (hfault : policy.isFault answer.exitCode = false)
      (hreport : FileReport.parse answer.output = .ok (some report))
      (hfile : files.find? (fun g => g.name = relativize h report.path root) = some g) :
      Outcome call f (.ok (messagesOn g report))

variable {t policy h root files}

/-- **A file comes to one thing.** -/
theorem Outcome.unique {call : Nat} {f : EditedFile} {x y : Except Error (List String)}
    (hx : t.Outcome policy h root files call f x) (hy : t.Outcome policy h root files call f y) :
    x = y := by
  -- a report cannot be about one of the files and about none
  have hfind : ∀ {name : String} {g : EditedFile}, name ∉ files.map EditedFile.name →
      files.find? (fun g => g.name = name) ≠ some g := by
    intro name g hnone hfind
    have hname : g.name = name := by simpa using List.find?_some hfind
    exact hnone (List.mem_map.2 ⟨g, List.mem_of_find?_eq_some hfind, hname⟩)
  cases hx <;> cases hy <;> grind

end Script

/-! ### One file -/

variable (t : Script) (policy : FaultPolicy) (h : Host) (root copy : Path) (files : List EditedFile)

/-- The messages about added lines that linting a file brings. -/
def lintOne (f : EditedFile) : Action Asked (List String) := do
  match ← lintFile t.collaborators policy copy f with
  | some report => keep files root report
  | none => return []

/-- The messages of a report that count. -/
theorem correlate_eq (report : FileReport) :
    correlate h report files root =
      match files.find? (fun g => g.name = relativize h report.path root) with
      | some g => .ok (Script.messagesOn g report)
      | none => .error (.unknownFile (relativize h report.path root)) := by
  have hname : (fun g : EditedFile => g.name == relativize h report.path root) =
      fun g => decide (g.name = relativize h report.path root) := rfl
  unfold correlate findFile
  rw [hname]
  cases files.find? (fun g => g.name = relativize h report.path root) with
  | none => rfl
  | some g =>
      refine congrArg Except.ok (congrArg (List.filterMap · report.messages) (funext fun m => ?_))
      cases m.line with
      | none => rfl
      | some n =>
          change (if g.lines.contains n = true then _ else _) = if n ∈ g.lines.keys then _ else _
          simp only [OrderedMap.contains_iff]
          rfl

theorem host_asked (w : Asked) : Hosted.host w = w.1 := rfl

theorem run_keep (report : FileReport) (log : List LintRequest) :
    (keep files root report : Action Asked (List String)).run.run (h, log) =
      ((correlate h report files root).mapError .internal, (h, log)) := by
  unfold keep
  rw [Action.run_bind_of_ok (Action.run_get (h, log)), host_asked]
  cases correlate h report files root <;> rfl

variable {t policy h root files} in
/-- A report decides what a file comes to: it is about one of the files, or about none. -/
theorem Script.Outcome.ofReport {call : Nat} {f : EditedFile} {content : Bytes}
    {answer : ToolOutput} {report : FileReport} (hindex : t.index f.name = .ok content)
    (hanswer : t.answers call = .ok answer) (hfault : policy.isFault answer.exitCode = false)
    (hreport : FileReport.parse answer.output = .ok (some report)) :
    t.Outcome policy h root files call f ((correlate h report files root).mapError .internal) := by
  rw [correlate_eq]
  cases hfile : files.find? (fun g => g.name = relativize h report.path root) with
  | some g => exact .reported hindex hanswer hfault hreport hfile
  | none => exact .unknown hindex hanswer hfault hreport (by simpa using hfile)

theorem run_stagedContent (name : String) (w : Asked) :
    (t.collaborators.stagedContent name).run.run w = (t.index name, w) := rfl

theorem run_lint (request : LintRequest) (w : Asked) :
    (t.collaborators.lint request).run.run w =
      (t.answers w.2.length, (w.1, w.2 ++ [request])) := rfl

/-- Asking for the content of a file and then the linter, as a script answers. -/
theorem run_lintFile (f : EditedFile) (log : List LintRequest) :
    (lintFile t.collaborators policy copy f).run.run (h, log) =
      match t.index f.name with
      | .error e => (.error e, (h, log))
      | .ok content =>
        match t.answers log.length with
        | .error e => (.error e, (h, log ++ [⟨content, copy, f.name⟩]))
        | .ok answer =>
          (if policy.isFault answer.exitCode then
              .error (.tool (.failed (answer.describeFailure t.describe)))
            else (FileReport.parse answer.output).mapError .internal,
            (h, log ++ [⟨content, copy, f.name⟩])) := by
  unfold lintFile
  rw [Action.run_bind, run_stagedContent]
  cases t.index f.name with
  | error e => rfl
  | ok content =>
      simp only
      rw [Action.run_bind, run_lint]
      cases t.answers log.length with
      | error e => rfl
      | ok answer =>
          simp only
          cases policy.isFault answer.exitCode with
          | true => rfl
          | false => cases FileReport.parse answer.output <;> rfl

/-- **One file**: what linting it comes to, and what the linter is asked. -/
theorem run_lintOne (f : EditedFile) (log : List LintRequest) :
    ∃ result requests,
      (lintOne t policy root copy files f).run.run (h, log) = (result, (h, log ++ requests)) ∧
        t.Outcome policy h root files log.length f result ∧
        List.Forall₂ (t.Asks copy) (if (t.index f.name).isOk then [f] else []) requests := by
  unfold lintOne
  rw [Action.run_bind, run_lintFile]
  cases hindex : t.index f.name with
  | error e => exact ⟨.error e, [], by simp, .unstaged hindex, .nil⟩
  | ok content =>
      have hasks : List.Forall₂ (t.Asks copy) [f] [⟨content, copy, f.name⟩] :=
        .cons ⟨hindex, rfl, rfl⟩ .nil
      cases hanswer : t.answers log.length with
      | error e => exact ⟨.error e, _, rfl, .unanswered hindex hanswer, hasks⟩
      | ok answer =>
          dsimp only
          cases hfault : policy.isFault answer.exitCode with
          | true => exact ⟨_, _, rfl, .fault hindex hanswer hfault, hasks⟩
          | false =>
              rw [if_neg Bool.false_ne_true]
              cases hreport : FileReport.parse answer.output with
              | error e => exact ⟨_, _, rfl, .unreadable hindex hanswer hfault hreport, hasks⟩
              | ok report? =>
                  cases report? with
                  | none => exact ⟨_, _, rfl, .silent hindex hanswer hfault hreport, hasks⟩
                  | some report =>
                      exact ⟨_, _, run_keep h root files report _,
                        .ofReport hindex hanswer hfault hreport, hasks⟩

/-! ### All files -/

/-- How linting files one after the other ends, and what the linter is asked: all files come to
messages, or the first failure ends the run. The files come to what they come to at successive
calls, the first one at `call`. -/
inductive Script.Ends (call : Nat) (todo : List EditedFile) :
    Except Error (List String) → List LintRequest → Prop
  | completed {lists requests}
      (hmessages : List.Forall₂ (fun p ms => t.Outcome policy h root files p.2 p.1 (.ok ms))
        (todo.zipIdx call) lists)
      (hrequests : List.Forall₂ (t.Asks copy) todo requests) :
      Script.Ends call todo (.ok lists.flatten) requests
  | stopped {front f back e requests} (htodo : todo = front ++ f :: back)
      (hfront : ∀ p ∈ front.zipIdx call, ∃ ms, t.Outcome policy h root files p.2 p.1 (.ok ms))
      (hfailure : t.Outcome policy h root files (call + front.length) f (.error e))
      (hrequests : List.Forall₂ (t.Asks copy)
        (front ++ if (t.index f.name).isOk then [f] else []) requests) :
      Script.Ends call todo (.error e) requests

namespace Script.Ends

variable {t policy h root copy files}

/-- A file that comes to messages lets the run go on. -/
theorem cons_ok {call : Nat} {f : EditedFile} {rest : List EditedFile} {ms : List String}
    {r : LintRequest} {result : Except Error (List String)} {requests : List LintRequest}
    (hf : t.Outcome policy h root files call f (.ok ms)) (hr : t.Asks copy f r)
    (hrest : t.Ends policy h root copy files (call + 1) rest result requests) :
    t.Ends policy h root copy files call (f :: rest) (result.map (ms ++ ·)) (r :: requests) := by
  cases hrest with
  | @completed lists _ hmessages hrequests =>
      have hall : List.Forall₂ (fun p ms => t.Outcome policy h root files p.2 p.1 (.ok ms))
          ((f :: rest).zipIdx call) (ms :: lists) := .cons hf hmessages
      exact (Script.Ends.completed hall (.cons hr hrequests) :)
  | @stopped front g back e _ htodo hfront hfailure hrequests =>
      have htodo' : f :: rest = (f :: front) ++ g :: back := congrArg (f :: ·) htodo
      refine .stopped htodo' ?_ ?_ (.cons hr hrequests)
      · rw [List.zipIdx_cons, List.forall_mem_cons]
        exact ⟨⟨ms, hf⟩, hfront⟩
      · rwa [List.length_cons, Nat.add_comm front.length, ← Nat.add_assoc]

/-- A file that fails ends the run. -/
theorem cons_error {call : Nat} {f : EditedFile} (rest : List EditedFile) {e : Error}
    {requests : List LintRequest} (hf : t.Outcome policy h root files call f (.error e))
    (hrequests : List.Forall₂ (t.Asks copy) (if (t.index f.name).isOk then [f] else []) requests) :
    t.Ends policy h root copy files call (f :: rest) (.error e) requests :=
  .stopped (List.nil_append (f :: rest)).symm (by simp) hf hrequests

theorem of_nil {call : Nat} {result : Except Error (List String)} {requests : List LintRequest}
    (hends : t.Ends policy h root copy files call [] result requests) :
    result = .ok [] ∧ requests = [] := by
  cases hends with
  | completed hmessages hrequests =>
      cases hmessages
      cases hrequests
      exact ⟨rfl, rfl⟩
  | stopped htodo => simp at htodo

/-- What the first file comes to decides how the run goes on. -/
theorem cases_cons {call : Nat} {f : EditedFile} {rest : List EditedFile}
    {result : Except Error (List String)} {requests : List LintRequest}
    (hends : t.Ends policy h root copy files call (f :: rest) result requests) :
    (∃ e, t.Outcome policy h root files call f (.error e) ∧ result = .error e ∧
      List.Forall₂ (t.Asks copy) (if (t.index f.name).isOk then [f] else []) requests) ∨
    ∃ ms r result' later, t.Outcome policy h root files call f (.ok ms) ∧ t.Asks copy f r ∧
      result = result'.map (ms ++ ·) ∧ requests = r :: later ∧
        t.Ends policy h root copy files (call + 1) rest result' later := by
  cases hends with
  | completed hmessages hrequests =>
      rw [List.zipIdx_cons] at hmessages
      cases hmessages with
      | cons hf hrest =>
          cases hrequests with
          | cons hr hlater => exact .inr ⟨_, _, _, _, hf, hr, rfl, rfl, .completed hrest hlater⟩
  | @stopped front g back e _ htodo hfront hfailure hrequests =>
      cases front with
      | nil =>
          obtain ⟨rfl, rfl⟩ := List.cons.inj htodo
          exact .inl ⟨e, hfailure, rfl, hrequests⟩
      | cons f' front =>
          obtain ⟨rfl, rfl⟩ := List.cons.inj htodo
          rw [List.zipIdx_cons, List.forall_mem_cons] at hfront
          obtain ⟨⟨ms, hf⟩, hfront⟩ := hfront
          cases hrequests with
          | cons hr hlater =>
              rw [List.length_cons, Nat.add_comm front.length, ← Nat.add_assoc] at hfailure
              exact .inr ⟨ms, _, .error e, _, hf, hr, rfl, rfl,
                .stopped rfl hfront hfailure hlater⟩

/-- **A run ends in one way.** -/
theorem unique {call : Nat} {todo : List EditedFile} {x y : Except Error (List String)}
    {qs rs : List LintRequest} (hx : t.Ends policy h root copy files call todo x qs)
    (hy : t.Ends policy h root copy files call todo y rs) : x = y ∧ qs = rs := by
  have hasks : Relator.RightUnique (t.Asks copy) := by
    rintro f ⟨_, _, _⟩ ⟨_, _, _⟩ ⟨hq, hq', hq''⟩ ⟨hr, hr', hr''⟩
    simp_all
  induction todo generalizing call x y qs rs with
  | nil =>
      obtain ⟨rfl, rfl⟩ := hx.of_nil
      obtain ⟨rfl, rfl⟩ := hy.of_nil
      exact ⟨rfl, rfl⟩
  | cons f rest ih =>
      obtain ⟨e, hf, rfl, hqs⟩ | ⟨ms, q, x', qs', hf, hq, rfl, rfl, hx'⟩ := hx.cases_cons <;>
      obtain ⟨e', hf', rfl, hrs⟩ | ⟨ms', r, y', rs', hf', hr, rfl, rfl, hy'⟩ := hy.cases_cons
      · obtain rfl := Except.error.inj (hf.unique hf')
        exact ⟨rfl, List.right_unique_forall₂' hasks hqs hrs⟩
      · cases hf.unique hf'
      · cases hf.unique hf'
      · cases hf.unique hf'
        obtain ⟨rfl, rfl⟩ := ih hx' hy'
        exact ⟨rfl, congrArg (· :: _) (hasks hq hr)⟩

end Script.Ends

theorem lintAll_cons (f : EditedFile) (rest : List EditedFile) :
    lintAll t.collaborators policy root copy files (f :: rest) =
      lintOne t policy root copy files f >>= fun ms =>
        lintAll t.collaborators policy root copy files rest >>= fun more => return ms ++ more := by
  rw [lintOne, bind_assoc, lintAll]
  refine congrArg _ (funext fun report? => ?_)
  cases report? <;> rfl

/-- A file that comes to messages has been asked about. -/
theorem Script.Outcome.isOk_index {call : Nat} {f : EditedFile} {ms : List String}
    (hf : t.Outcome policy h root files call f (.ok ms)) : (t.index f.name).isOk = true := by
  cases hf with
  | silent hindex => rw [hindex]; rfl
  | reported hindex => rw [hindex]; rfl

/-- **All files**, up to the first failure. -/
theorem run_lintAll (todo : List EditedFile) (log : List LintRequest) :
    ∃ result requests,
      (lintAll t.collaborators policy root copy files todo).run.run (h, log) =
          (result, (h, log ++ requests)) ∧
        t.Ends policy h root copy files log.length todo result requests := by
  induction todo generalizing log with
  | nil =>
      have hnone : t.Ends policy h root copy files log.length [] (.ok [].flatten) [] :=
        .completed .nil .nil
      exact ⟨.ok [], [], by rw [List.append_nil]; rfl, hnone⟩
  | cons f rest ih =>
      obtain ⟨result, requests, hrun, houtcome, hrequests⟩ :=
        run_lintOne t policy h root copy files f log
      rw [lintAll_cons, Action.run_bind, hrun]
      cases result with
      | error e => exact ⟨.error e, requests, rfl, .cons_error rest houtcome hrequests⟩
      | ok ms =>
          rw [if_pos houtcome.isOk_index] at hrequests
          cases hrequests with
          | cons hr hnil =>
              cases hnil with
              | nil =>
                  rename_i r
                  obtain ⟨result', later, hrest, hends⟩ := ih (log ++ [r])
                  rw [List.length_append, List.length_singleton] at hends
                  refine ⟨_, _, ?_, .cons_ok houtcome hr hends⟩
                  dsimp only
                  rw [Action.run_bind, hrest, List.append_assoc]
                  cases result' <;> rfl

/-! ### The checker -/

/-- Work on the host leaves alone what the linter was asked. -/
theorem run_act {α : Type} (a : Action Host α) (w : Asked) :
    (Hosted.act a : Action Asked α).run.run w = ((a.run.run w.1).1, ((a.run.run w.1).2, w.2)) := rfl

variable {t}

/-- Building a checker is reading its options. -/
theorem run_build (s : Settings) (w : Asked) :
    (build t.collaborators s).run.run w =
      match readOptions w.1 s with
      | .error e => (.error (.config e), w)
      | .ok options =>
        (.ok ⟨s, extensions, inspect t.collaborators options.2 s options.1⟩, w) := by
  unfold build
  rw [Action.run_bind_of_ok (Action.run_get w), host_asked]
  cases readOptions w.1 s <;> rfl

/-- A checker that has been built inspects files by its options. -/
theorem exists_options_of_run_build {s : Settings} {w w' : Asked} {checker : Checker Asked}
    (h : (build t.collaborators s).run.run w = (.ok checker, w')) :
    ∃ config policy, readOptions w.1 s = .ok (config, policy) ∧
      checker = ⟨s, extensions, inspect t.collaborators policy s config⟩ := by
  rw [run_build] at h
  rcases hoptions : readOptions w.1 s with e | ⟨config, policy⟩
  · rw [hoptions] at h
    cases h
  · rw [hoptions] at h
    exact ⟨config, policy, rfl, (Except.ok.inj (Prod.mk.inj h).1).symm⟩

/-- **What the checker answers.** Without a file of its extensions it does nothing. Otherwise the
configuration is copied once; if that fails, so does the checker. Then the files are linted one
after the other, up to the first failure: the answer and what the linter was asked are the only ones
that the script allows. -/
theorem run_checkFiles {s : Settings} {w₀ w₀' : Asked} {checker : Checker Asked}
    (hbuilt : (build t.collaborators s).run.run w₀ = (.ok checker, w₀')) (files : List EditedFile)
    (w : Asked) :
    ∃ config policy, readOptions w₀.1 s = .ok (config, policy) ∧
      (files.filter checker.accepts = [] → (checker.checkFiles files).run.run w = (.ok [], w)) ∧
      (files.filter checker.accepts ≠ [] →
        (∀ e h, (stageConfig config s.stagingDir).run.run w.1 = (.error e, h) →
          (checker.checkFiles files).run.run w = (.error e, (h, w.2))) ∧
        ∀ copy h, (stageConfig config s.stagingDir).run.run w.1 = (.ok copy, h) →
          ∃ result requests,
            (checker.checkFiles files).run.run w = (result, (h, w.2 ++ requests)) ∧
            t.Ends policy h s.repoRoot copy (files.filter checker.accepts) w.2.length
              (files.filter checker.accepts) result requests ∧
            ∀ result' requests',
              t.Ends policy h s.repoRoot copy (files.filter checker.accepts) w.2.length
                (files.filter checker.accepts) result' requests' →
              result' = result ∧ requests' = requests) := by
  obtain ⟨config, policy, hoptions, rfl⟩ := exists_options_of_run_build hbuilt
  refine ⟨config, policy, hoptions, fun hnone => ?_, fun hsome => ?_⟩
  · rw [Checker.checkFiles_of_eq_nil hnone]
    rfl
  · rw [Checker.checkFiles_of_ne_nil hsome]
    dsimp only
    rw [inspect]
    refine ⟨fun e h hstage => ?_, fun copy h hstage => ?_⟩
    · rw [Action.run_bind, run_act, hstage]
    · rw [Action.run_bind, run_act, hstage]
      obtain ⟨result, requests, hrun, hends⟩ := run_lintAll t policy h s.repoRoot copy
        (files.filter _) (files.filter _) w.2
      exact ⟨result, requests, hrun, hends, fun _ _ hother => hother.unique hends⟩

/-! ### A run -/

/-- A directory with a configuration. -/
def pairHost : Host where
  files := (FileTree.empty.put [['g']] .directory).put [['g'], ['c']] (.file [] false)
  directory := [['g']]
  executable := "/g/guard"
  input := []
  actor := "guard"
  now := ⟨0, 0⟩
  processId := 1
  writes := 0
  start _ _ t := (.error (.os .notFound), t)

def pairSettings : Settings :=
  { Settings.ofContext (.new "/g" "/g" "/g/standards.yml") with
    name := "lint"
    options := SortedMap.empty.insert "standard" (.str "c") }

/-- A report about two lines of a file. -/
def pairReport : String :=
  "[\x7b\"filePath\":\"/g/a.js\",\"messages\":[" ++
    "\x7b\"line\":3,\"message\":\"m\"\x7d,\x7b\"line\":9,\"message\":\"n\"\x7d]\x7d]"

/-- The linter complains about one file, and has nothing to say of others. -/
def pairScript : Script where
  index name := .ok (Utf8.encode name)
  answers
    | 0 => .ok ⟨some 1, pairReport, ""⟩
    | _ => .ok ⟨some 0, "[]", ""⟩
  describe := "lint"

/-- Two files to lint, and one that is not. -/
def pairFiles : List EditedFile :=
  [(EditedFile.new "a.js").register 3 "x", .new "b.py", .new "b.js"]

/-- Where the copy of the configuration goes, and the temporary file beside it. -/
def pairCopies : Location := [['g'], "eslint-config-copies".toList]

def pairCopy : Location := pairCopies ++ [['c']]

def pairTemporary : Location := pairCopies ++ [".c.1.0.tmp".toList]

/-- The files with the directory for copies, then with the temporary file, empty and written. -/
def pairStaged : FileTree := pairHost.files.put pairCopies .directory

def pairCreated : FileTree := pairStaged.put pairTemporary (.file [] false)

def pairWritten : FileTree := pairCreated.put pairTemporary (.file [] false)

def pairCopied : FileTree := (pairWritten.erase pairTemporary).put pairCopy (.file [] false)

theorem pairTrees_evaluated :
    (pairHost.files.Reaches [['g'], ['c']] ∧
        pairHost.files.get? [['g'], ['c']] = some (.file [] false)) ∧
      (pairHost.files.Reaches pairCopies ∧ pairHost.files.get? pairCopies = none) ∧
      (pairStaged.Reaches [['g'], ['c']] ∧
        pairStaged.get? [['g'], ['c']] = some (.file [] false)) ∧
      (pairStaged.Reaches pairCopies ∧ pairStaged.get? pairCopies = some .directory) ∧
      (pairStaged.Reaches pairTemporary ∧ pairStaged.get? pairTemporary = none) ∧
      (pairCreated.Reaches pairTemporary ∧
        pairCreated.get? pairTemporary = some (.file [] false)) ∧
      (pairWritten.Reaches pairTemporary ∧
        pairWritten.get? pairTemporary = some (.file [] false)) ∧
      pairWritten.Reaches pairCopy ∧ pairWritten.get? pairCopy = none := by
  decide +kernel

theorem pairPaths_evaluated :
    ("/g/c" : Path) = Location.path [['g'], ['c']] ∧ ("/g/c" : Path).fileName? = some ['c'] ∧
      pairSettings.stagingDir = pairCopies.path ∧ pairCopies.path.chars.isEmpty = false ∧
      pairCopies.path.join ⟨['c']⟩ = pairCopy.path ∧ pairCopy.path.parent? = some pairCopies.path ∧
      (temporaryPath pairCopy.path 1 0).toOption = some pairTemporary.path ∧
      Staging.extendsEntries [] = [] := by
  decide +kernel

/-- The configuration is copied. -/
theorem stageConfig_pair :
    (stageConfig "/g/c" pairSettings.stagingDir).run.run pairHost =
      (.ok pairCopy.path, { pairHost with files := pairCopied, writes := 1 }) := by
  obtain ⟨-, ⟨hfree, hnone⟩, ⟨hsource, hcontent⟩, ⟨hparent, hdirectory⟩, ⟨htemporary, habsent⟩,
    ⟨hcreated, hempty⟩, ⟨hwritten, hfull⟩, htarget, hfresh⟩ := pairTrees_evaluated
  obtain ⟨hconfig, hname, hstaging, hsome, hjoin, hup, hbeside, hextends⟩ := pairPaths_evaluated
  have hmake : pairHost.files.makeDirectories pairHost.directory pairCopies.path =
      (pairStaged, .ok ()) := by
    rw [FileTree.makeDirectories, hsome, if_neg Bool.false_ne_true, FileTree.makeDirectory,
      FileTree.walk_path_of_none hfree _ hnone]
    rfl
  have hread : pairStaged.read pairHost.directory "/g/c" = .ok [] := by
    rw [FileTree.read, hconfig, FileTree.find_path hsource _ hcontent rfl]
    rfl
  have hensure : ensureParent (fun _ => none) pairStaged pairHost.directory pairCopy.path =
      (pairStaged, .ok ()) := by
    have hexists : pairStaged.exists? pairHost.directory pairCopies.path = true := by
      rw [FileTree.exists?, FileTree.find_path hparent _ hdirectory rfl]
      rfl
    simp only [ensureParent, hup, hexists, Bool.or_true, if_true]
  have hwrite : writeAtomically { pairHost with files := pairStaged }
      (pairCopies.path.join ⟨['c']⟩) [] =
        (.ok (), { pairHost with files := pairCopied, writes := 1 }) := by
    rw [hjoin]
    exact writeAtomically_eq_ok hensure (eq_ok_of_toOption hbeside)
      (FileTree.create_path_of_none htemporary habsent [])
      (FileTree.create_path_of_file hcreated hempty [])
      (FileTree.rename_path hwritten hfull rfl htarget hfresh)
  rw [hstaging, ← hjoin]
  exact run_stageConfig_of_lone hmake hname hread hextends hwrite

theorem readOptions_pair : readOptions pairHost pairSettings = .ok ("/g/c", .aboveOne) :=
  eq_ok_of_toOption (by decide +kernel)

/-- The checker that is built from the options. -/
def pairChecker : Checker Asked :=
  ⟨pairSettings, extensions, inspect pairScript.collaborators .aboveOne pairSettings "/g/c"⟩

theorem pair_evaluated :
    pairFiles.map pairChecker.accepts = [true, false, true] ∧
      pairChecker.accepts (.new "b.py") = false ∧
      (FileReport.parse pairReport).toOption =
        some (some ⟨"/g/a.js", [⟨some 3, "m"⟩, ⟨some 9, "n"⟩]⟩) ∧
      (FileReport.parse "[]").toOption = some none ∧
      ("/g/a.js" : Path).isAbsolute = true ∧
      ("/g/a.js" : Path).below? "/g" = some (.ofString "a.js") := by
  decide +kernel

theorem filter_pairFiles :
    pairFiles.filter pairChecker.accepts =
      [(EditedFile.new "a.js").register 3 "x", .new "b.js"] := by
  obtain ⟨haccepts, -⟩ := pair_evaluated
  simp only [pairFiles, List.map_cons, List.map_nil, List.cons.injEq] at haccepts
  simp [pairFiles, haccepts]

/-- Of the two complaints the one about an added line is kept. The linter is asked about the files
of its extensions only, and about nothing if there are none. -/
theorem run_checkFiles_pair :
    (build pairScript.collaborators pairSettings).run.run (pairHost, []) =
        (.ok pairChecker, (pairHost, [])) ∧
      (pairChecker.checkFiles pairFiles).run.run (pairHost, []) =
        (.ok ["m in a.js on line 3"],
          ({ pairHost with files := pairCopied, writes := 1 },
            [⟨Utf8.encode "a.js", pairCopy.path, "a.js"⟩,
              ⟨Utf8.encode "b.js", pairCopy.path, "b.js"⟩])) ∧
      (pairChecker.checkFiles [.new "b.py"]).run.run (pairHost, []) = (.ok [], (pairHost, [])) := by
  obtain ⟨-, hother, hreport, hsilent, habsolute, hbelow⟩ := pair_evaluated
  have hbuilt : (build pairScript.collaborators pairSettings).run.run (pairHost, []) =
      (.ok pairChecker, (pairHost, [])) := by
    rw [run_build, readOptions_pair]
    rfl
  obtain ⟨-, -, -, hidle, -⟩ := run_checkFiles hbuilt [.new "b.py"] (pairHost, [])
  refine ⟨hbuilt, ?_, hidle (by simp [hother])⟩
  obtain ⟨config, policy, hoptions, -, hrun⟩ := run_checkFiles hbuilt pairFiles (pairHost, [])
  rw [readOptions_pair] at hoptions
  obtain ⟨rfl, rfl⟩ := Prod.mk.inj (Except.ok.inj hoptions)
  rw [filter_pairFiles] at hrun
  obtain ⟨result, requests, hresult, -, hunique⟩ := (hrun (by simp)).2 _ _ stageConfig_pair
  have hname : ∀ h, relativize h "/g/a.js" pairSettings.repoRoot = "a.js" := by
    intro h
    unfold relativize
    rw [show pairSettings.repoRoot = "/g" from rfl]
    simp only [habsolute, hbelow, Bool.not_true, Bool.false_eq_true, if_false, Option.getD_some]
    decide +kernel
  have hmessages : Script.messagesOn ((EditedFile.new "a.js").register 3 "x")
      ⟨"/g/a.js", [⟨some 3, "m"⟩, ⟨some 9, "n"⟩]⟩ = ["m in a.js on line 3"] := by
    decide +kernel
  have hends : pairScript.Ends .aboveOne { pairHost with files := pairCopied, writes := 1 }
      pairSettings.repoRoot pairCopy.path
      [(EditedFile.new "a.js").register 3 "x", .new "b.js"] 0
      [(EditedFile.new "a.js").register 3 "x", .new "b.js"]
      (.ok [["m in a.js on line 3"], []].flatten)
      [⟨Utf8.encode "a.js", pairCopy.path, "a.js"⟩,
        ⟨Utf8.encode "b.js", pairCopy.path, "b.js"⟩] := by
    refine .completed (.cons ?_ (.cons ?_ .nil))
      (.cons ⟨rfl, rfl, rfl⟩ (.cons ⟨rfl, rfl, rfl⟩ .nil))
    · rw [← hmessages]
      refine .reported rfl rfl rfl (eq_ok_of_toOption hreport) ?_
      simp [hname, EditedFile.new, EditedFile.register]
    · exact .silent rfl rfl rfl (eq_ok_of_toOption hsilent)
  obtain ⟨rfl, rfl⟩ := hunique _ _ hends
  exact hresult

end Linting

end StandardsGate
