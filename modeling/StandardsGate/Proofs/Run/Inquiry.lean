import StandardsGate.Proofs.Run.Specification
import StandardsGate.Proofs.Standards.Partition

/-!
What a run asks and records.

Apart from what it prints, a run is a list of questions. It records that it begins and which hunks
could not be read, asks one checker after the other and records each answer, and records its end.
This holds for each recorder and for checkers that do anything, and failures are told as well: the
run fails where the first of these steps does.

Main definitions:

* `Question`, `Reply` — a checker with the files that it is asked about, and its answer;
* `Config.questions` — the questions of a run, one standard after the other;
* `inquiry` — asking and recording;
* `Running.Does` — whether a run does other work, and prints no banner meanwhile;
* `RunEnds` — how a run can end.

Main results:

* `inquiry_eq_error` — where an inquiry fails;
* `runEnds_checkDiff` — **a run is its inquiry**, between two records and two banners.
-/

namespace StandardsGate

open Running

variable {σ α β : Type}

/-! ### Questions -/

/-- A checker with the files that it is asked about. -/
structure Question (σ : Type) where
  standard : String
  files : List EditedFile
  checker : Checker σ

/-- The answer to a question: the messages, and how many milliseconds they took. -/
structure Reply (σ : Type) where
  question : Question σ
  millis : Nat
  messages : List String

/-- What is recorded of an answer. -/
def Reply.record (r : Reply σ) : Record :=
  checkerRecord r.question.standard r.question.checker.name r.millis r.question.files.length
    r.messages.length

/-- An answer is a finding if there are messages in it. -/
def Reply.finding? (r : Reply σ) : Option Finding :=
  StandardsGate.finding? r.question.standard (r.question.checker.name, r.messages)

/-- Asks a checker, and records its answer. -/
def Question.pose (rec : Recorder σ) (q : Question σ) : Action σ (Reply σ) := do
  let before := rec.clock (← get)
  let messages ← q.checker.checkFiles q.files
  let after := rec.clock (← get)
  let reply : Reply σ := ⟨q, after - before, messages⟩
  rec.record reply.record
  return reply

/-- The questions about a standard. -/
def Task.questions (t : Task σ) : List (Question σ) :=
  t.checkers.map (Question.mk t.standard t.files)

namespace Config

/-- What has to be asked: for each declared standard with files for which checkers were built, these
checkers about its files. -/
def builtTasks (config : Config) (built : List (String × List (Checker σ)))
    (files : List EditedFile) : List (Task σ) :=
  config.standards.entries.filterMap fun e =>
    if config.filesOf files e.1 = [] then none
    else Group.task? built ⟨e.1, config.filesOf files e.1⟩

/-- The questions of a run, one standard after the other. -/
def questions (config : Config) (built : List (String × List (Checker σ)))
    (files : List EditedFile) : List (Question σ) :=
  (config.builtTasks built files).flatMap Task.questions

/-- The outcome of a run in terms of the answers. -/
def summary (config : Config) (built : List (String × List (Checker σ))) (d : Diff)
    (rs : List (Reply σ)) : RunSummary where
  files := d.files.size
  checked := (config.builtTasks built d.files.toList).map Task.standard
  findings := rs.filterMap Reply.finding?
  malformed := d.malformed.length

/-- A commit is rejected exactly if there are messages in some answer. -/
theorem verdict_summary_eq_rejected_iff (config : Config)
    (built : List (String × List (Checker σ))) (d : Diff) (rs : List (Reply σ)) :
    (config.summary built d rs).verdict = .rejected ↔ ∃ r ∈ rs, r.messages ≠ [] := by
  rw [RunSummary.verdict_eq_rejected_iff]
  change rs.filterMap Reply.finding? ≠ [] ↔ _
  simp [List.filterMap_eq_nil_iff, Reply.finding?, finding?]

/-- The number of violations is that of the messages in the answers. -/
theorem violations_summary (config : Config) (built : List (String × List (Checker σ))) (d : Diff)
    (rs : List (Reply σ)) :
    (config.summary built d rs).violations = (rs.flatMap Reply.messages).length := by
  rw [RunSummary.violations_eq]
  change ((rs.filterMap Reply.finding?).flatMap Finding.messages).length = _
  rw [List.filterMap_eq_flatMap_toList, List.flatMap_assoc]
  refine congrArg List.length (List.flatMap_congr fun r _ => ?_)
  cases hr : r.messages <;> simp [Reply.finding?, finding?, hr]

/-- The groups whose standards have checkers are what has to be asked. -/
theorem filterMap_groups {config : Config} {a : Assignment}
    (ha : List.Forall₂ Assignment.Compiled config.standards.entries a.matchers)
    (built : List (String × List (Checker σ))) (files : List EditedFile) :
    (a.groups files).filterMap (Group.task? built) = config.builtTasks built files := by
  rw [Assignment.groups_eq ha, List.filterMap_filter, List.filterMap_map, builtTasks]
  refine List.filterMap_congr fun e _ => ?_
  by_cases hfiles : config.filesOf files e.1 = [] <;> simp [hfiles]

/-- The checker of a question was built for its standard, and its files belong to that standard. -/
theorem of_mem_questions {config : Config} {built : List (String × List (Checker σ))}
    {files : List EditedFile} {q : Question σ} (h : q ∈ config.questions built files) :
    q.checker ∈ (built.lookup q.standard).getD [] ∧ q.files = config.filesOf files q.standard := by
  obtain ⟨t, ht, hq⟩ := List.mem_flatMap.1 h
  obtain ⟨e, -, htask⟩ := List.mem_filterMap.1 ht
  obtain ⟨c, hc, rfl⟩ := List.mem_map.1 hq
  split at htask
  · cases htask
  · unfold Group.task? at htask
    split at htask
    · cases htask
    · rename_i hown
      obtain rfl := Option.some.inj htask
      exact ⟨hc, rfl⟩

end Config

/-- Records the hunks that could not be read, and asks one question after the other. -/
def questioning (rec : Recorder σ) (d : Diff) (qs : List (Question σ)) :
    Action σ (List (Reply σ)) := do
  d.malformed.forM fun m => rec.record (malformedRecord m)
  qs.mapM (Question.pose rec)

/-- All that is asked and recorded but for the end of a run. -/
def inquiry (rec : Recorder σ) (config : Config) (d : Diff) (qs : List (Question σ)) :
    Action σ (List (Reply σ)) := do
  rec.record (startRecord config d)
  questioning rec d qs

/-! ### Where an inquiry fails -/

section Failing

variable {rec : Recorder σ} {config : Config} {d : Diff} {qs : List (Question σ)}
  {q : Question σ} {rs : List (Reply σ)} {r : Reply σ} {e : Error} {s s' : σ}

/-- Asking a checker that answers is recording the answer. -/
theorem Question.run_pose_of_ok (rec : Recorder σ) {messages : List String}
    (hasked : (q.checker.checkFiles q.files).run.run s = (.ok messages, s')) :
    ∃ r : Reply σ, r.question = q ∧ r.messages = messages ∧
      (q.pose rec).run.run s = (rec.record r.record >>= fun _ => return r).run.run s' := by
  refine ⟨⟨q, rec.clock s' - rec.clock s, messages⟩, rfl, rfl, ?_⟩
  unfold pose
  rw [Action.run_bind_of_ok (Action.run_get s), Action.run_bind_of_ok hasked,
    Action.run_bind_of_ok (Action.run_get s')]

/-- Asking a checker that fails is nothing else. -/
theorem Question.run_pose_of_error
    (hasked : (q.checker.checkFiles q.files).run.run s = (.error e, s')) :
    (q.pose rec).run.run s = (.error e, s') := by
  unfold pose
  rw [Action.run_bind_of_ok (Action.run_get s), Action.run_bind_of_error hasked]

/-- An answer that was recorded is what the checker said. -/
theorem Question.pose_eq_ok (h : (q.pose rec).run.run s = (.ok r, s')) :
    ∃ t, (q.checker.checkFiles q.files).run.run s = (.ok r.messages, t) ∧
      (rec.record r.record).run.run t = (.ok (), s') ∧ r.question = q := by
  unfold pose at h
  rw [Action.run_bind_of_ok (Action.run_get s)] at h
  obtain ⟨messages, t, hasked, h⟩ := Action.run_bind_eq_ok h
  rw [Action.run_bind_of_ok (Action.run_get t)] at h
  obtain ⟨⟨⟩, t', hrecord, h⟩ := Action.run_bind_eq_ok h
  cases h
  exact ⟨t, hasked, hrecord, rfl⟩

/-- A question fails because the checker does, or because its answer cannot be recorded. -/
theorem Question.pose_eq_error (h : (q.pose rec).run.run s = (.error e, s')) :
    (q.checker.checkFiles q.files).run.run s = (.error e, s') ∨
      ∃ event t, (rec.record event).run.run t = (.error e, s') := by
  unfold pose at h
  rw [Action.run_bind_of_ok (Action.run_get s)] at h
  rcases Action.run_bind_eq_error h with hasked | ⟨messages, t, -, h⟩
  · exact .inl hasked
  rw [Action.run_bind_of_ok (Action.run_get t)] at h
  rcases Action.run_bind_eq_error h with hrecord | ⟨-, t', -, h⟩
  · exact .inr ⟨_, t, hrecord⟩
  · cases h

theorem forM_record_eq_error {ms : List MalformedHunk}
    (h : (ms.forM fun m => rec.record (malformedRecord m)).run.run s = (.error e, s')) :
    ∃ event t, (rec.record event).run.run t = (.error e, s') := by
  induction ms generalizing s with
  | nil => cases h
  | cons m ms ih =>
      rcases Action.run_bind_eq_error h with hm | ⟨⟨⟩, t, -, hms⟩
      · exact ⟨_, s, hm⟩
      · exact ih hms

/-- **An inquiry fails** because something cannot be recorded, or at a checker that fails; then the
checkers before it have answered. -/
theorem inquiry_eq_error (h : (inquiry rec config d qs).run.run s = (.error e, s')) :
    (∃ event t, (rec.record event).run.run t = (.error e, s')) ∨
      ∃ front q back rs t, qs = front ++ q :: back ∧
        (inquiry rec config d front).run.run s = (.ok rs, t) ∧
        (q.checker.checkFiles q.files).run.run t = (.error e, s') := by
  rcases Action.run_bind_eq_error h with hstart | ⟨⟨⟩, s₁, hstart, h⟩
  · exact .inl ⟨_, s, hstart⟩
  rcases Action.run_bind_eq_error h with hmalformed | ⟨⟨⟩, s₂, hmalformed, h⟩
  · exact .inl (forM_record_eq_error hmalformed)
  obtain ⟨front, q, back, rs, t, hsplit, hfront, hq⟩ := Action.run_mapM_eq_error h
  rcases q.pose_eq_error hq with hasked | hrecord
  · refine .inr ⟨front, q, back, rs, t, hsplit, ?_, hasked⟩
    rw [inquiry, Action.run_bind_of_ok hstart, questioning, Action.run_bind_of_ok hmalformed, hfront]
  · exact .inl hrecord

/-- There is an answer to each question, in order. -/
theorem map_question_of_mapM (h : (qs.mapM (Question.pose rec)).run.run s = (.ok rs, s')) :
    rs.map Reply.question = qs := by
  rw [← List.forall₂_eq_eq_eq, List.forall₂_map_left_iff]
  refine ((Action.forall₂_of_mapM_eq_ok h).imp ?_).flip
  rintro q r ⟨t, t', hq⟩
  obtain ⟨-, -, -, hquestion⟩ := q.pose_eq_ok hq
  exact hquestion

theorem map_question_of_inquiry (h : (inquiry rec config d qs).run.run s = (.ok rs, s')) :
    rs.map Reply.question = qs := by
  obtain ⟨⟨⟩, t, -, h⟩ := Action.run_bind_eq_ok h
  obtain ⟨⟨⟩, t, -, h⟩ := Action.run_bind_eq_ok h
  exact map_question_of_mapM h

/-- What is in an answer is what the checker said. -/
theorem exists_checkFiles_of_inquiry
    (h : (inquiry rec config d qs).run.run s = (.ok rs, s')) (hr : r ∈ rs) :
    ∃ t t', (r.question.checker.checkFiles r.question.files).run.run t = (.ok r.messages, t') := by
  obtain ⟨⟨⟩, t, -, h⟩ := Action.run_bind_eq_ok h
  obtain ⟨⟨⟩, t, -, h⟩ := Action.run_bind_eq_ok h
  obtain ⟨q, -, t, t', hq⟩ := Action.exists_of_mem_mapM h hr
  obtain ⟨u, hasked, -, rfl⟩ := q.pose_eq_ok hq
  exact ⟨t, u, hasked⟩

end Failing

/-! ### Runs that do other work -/

/-- Whether a line belongs to a banner. -/
def ConsoleLine.isBanner : ConsoleLine → Bool
  | .banner .. => true
  | _ => false

namespace Running

/-- Whether a run does other work, and prints lines meanwhile that belong to no banner. -/
def Does (run : Action (Running σ) α) (work : Action σ α) : Prop :=
  ∀ r, ∃ lines, (∀ l ∈ lines, l.isBanner = false) ∧
    run.run.run r =
      ((work.run.run r.world).1, ⟨(work.run.run r.world).2, r.console ++ lines⟩)

namespace Does

variable {run : Action (Running σ) α} {work : Action σ α}

protected theorem pure (a : α) : Does (pure a : Action (Running σ) α) (pure a) := fun r =>
  ⟨[], by simp, by rw [List.append_nil]; rfl⟩

protected theorem throw (e : Error) : Does (throw e : Action (Running σ) α) (throw e) := fun r =>
  ⟨[], by simp, by rw [List.append_nil]; rfl⟩

theorem ofOnWorld (work : Action σ α) : Does (onWorld work) work := fun r =>
  ⟨[], by simp, by rw [List.append_nil]; rfl⟩

/-- One part after the other. -/
protected theorem bind {next : α → Action (Running σ) β} {more : α → Action σ β}
    (h : Does run work) (hnext : ∀ a, Does (next a) (more a)) :
    Does (run >>= next) (work >>= more) := by
  intro r
  obtain ⟨lines, hlines, hrun⟩ := h r
  rw [Action.run_bind work]
  rcases hwork : work.run.run r.world with ⟨_ | a, w⟩
  · rw [hwork] at hrun
    exact ⟨lines, hlines, Action.run_bind_of_error hrun next⟩
  · rw [hwork] at hrun
    obtain ⟨lines', hlines', hrun'⟩ := hnext a ⟨w, r.console ++ lines⟩
    refine ⟨lines ++ lines', List.forall_mem_append.2 ⟨hlines, hlines'⟩, ?_⟩
    rw [Action.run_bind_of_ok hrun, hrun', List.append_assoc]

/-- A run may look at its state. -/
theorem afterGet {next : Running σ → Action (Running σ) α} {more : σ → Action σ α}
    (h : ∀ r, Does (next r) (more r.world)) : Does (get >>= next) (get >>= more) := by
  intro r
  rw [Action.run_bind_of_ok (Action.run_get r), Action.run_bind_of_ok (Action.run_get r.world)]
  exact h r r

/-- A run may print what belongs to no banner. -/
theorem afterPrint {shown : List ConsoleLine} {next : Unit → Action (Running σ) α}
    (hshown : ∀ l ∈ shown, l.isBanner = false) (h : Does (next ()) work) :
    Does (print shown >>= next) work := by
  intro r
  have hprint : (print shown : Action (Running σ) Unit).run.run r =
      (.ok (), ⟨r.world, r.console ++ shown⟩) := rfl
  obtain ⟨lines, hlines, hrun⟩ := h ⟨r.world, r.console ++ shown⟩
  refine ⟨shown ++ lines, List.forall_mem_append.2 ⟨hshown, hlines⟩, ?_⟩
  rw [Action.run_bind_of_ok hprint, hrun, List.append_assoc]

/-- Work for each element of a list. -/
theorem forM {γ : Type} (work : γ → Action σ Unit) (cs : List γ) :
    Does (cs.forM fun c => onWorld (work c)) (cs.forM work) := by
  induction cs with
  | nil => exact .pure ()
  | cons c cs ih => exact (ofOnWorld (work c)).bind fun _ => ih

end Does

end Running

/-! ### A run is its inquiry -/

section

variable (rec : Recorder σ)

theorem isBanner_violationLines (checker : String) (messages : List String) :
    ∀ l ∈ violationLines checker messages, l.isBanner = false := by
  simp [violationLines, ConsoleLine.isBanner]

theorem does_runChecker (standard : String) (files : List EditedFile) (c : Checker σ) :
    Does (runChecker rec standard files c)
      ((fun r => r.finding?.toList) <$> Question.pose rec ⟨standard, files, c⟩) := by
  unfold runChecker Question.pose
  simp only [map_eq_pure_bind, bind_assoc, pure_bind]
  refine Does.afterGet fun r => (Does.ofOnWorld _).bind fun messages => ?_
  refine Does.afterGet fun r' => (Does.ofOnWorld _).bind fun _ => ?_
  by_cases h : messages.isEmpty
  · have hnone : (finding? standard (c.name, messages)).toList = [] := by simp [finding?, h]
    rw [if_pos h, Reply.finding?, hnone]
    exact .pure _
  · have hsome : (finding? standard (c.name, messages)).toList = [⟨standard, c.name, messages⟩] := by
      simp [finding?, h]
    rw [if_neg h, Reply.finding?, hsome]
    exact .afterPrint (isBanner_violationLines _ _) (.pure _)

theorem does_runCheckers (standard : String) (files : List EditedFile) (cs : List (Checker σ)) :
    Does (runCheckers rec standard files cs)
      ((fun rs => rs.filterMap Reply.finding?) <$>
        (Task.questions ⟨standard, files, cs⟩).mapM (Question.pose rec)) := by
  induction cs with
  | nil => exact .pure []
  | cons c cs ih =>
      unfold runCheckers
      have hcons : Task.questions ⟨standard, files, c :: cs⟩ =
          ⟨standard, files, c⟩ :: Task.questions ⟨standard, files, cs⟩ := rfl
      have hwork : ((fun rs => rs.filterMap Reply.finding?) <$>
          (Task.questions ⟨standard, files, c :: cs⟩).mapM (Question.pose rec)) =
          ((fun r => r.finding?.toList) <$> Question.pose rec ⟨standard, files, c⟩) >>= fun found =>
          ((fun rs => rs.filterMap Reply.finding?) <$>
            (Task.questions ⟨standard, files, cs⟩).mapM (Question.pose rec)) >>= fun later =>
          pure (found ++ later) := by
        rw [hcons, List.mapM_cons]
        simp only [map_eq_pure_bind, bind_assoc, pure_bind, List.filterMap_cons]
        refine congrArg _ (funext fun r => congrArg _ (funext fun rs => ?_))
        cases r.finding? <;> rfl
      rw [hwork]
      exact (does_runChecker rec standard files c).bind fun _ => ih.bind fun _ => .pure _

theorem does_runGroups (several : Bool) (built : List (String × List (Checker σ)))
    (gs : List Group) :
    Does (runGroups rec several built gs)
      ((fun rs => ((gs.filterMap (Group.task? built)).map Task.standard,
          rs.filterMap Reply.finding?)) <$>
        ((gs.filterMap (Group.task? built)).flatMap Task.questions).mapM (Question.pose rec)) := by
  induction gs with
  | nil => exact .pure _
  | cons g gs ih =>
      unfold runGroups
      cases hown : (built.lookup g.standard).getD [] with
      | nil =>
          have htask : g.task? built = none := by simp [Group.task?, hown]
          rw [List.filterMap_cons_none htask]
          exact ih
      | cons c cs =>
          have htask : g.task? built = some ⟨g.standard, g.files, c :: cs⟩ := by
            simp [Group.task?, hown]
          rw [List.filterMap_cons_some htask, List.flatMap_cons, List.mapM_append]
          -- what follows the heading is the same whether there is one or not
          have hrest := (does_runCheckers rec g.standard g.files (c :: cs)).bind fun found =>
            ih.bind fun later => Does.pure (g.standard :: later.1, found ++ later.2)
          simp only [map_eq_pure_bind, bind_assoc, pure_bind] at hrest ⊢
          simp only [List.map_cons, List.filterMap_append]
          cases several with
          | true => exact .afterPrint (by simp [ConsoleLine.isBanner]) hrest
          | false => exact hrest

/-- What a run does between its first and its last banner. If rules do not compile, no checker is
asked. -/
theorem exists_between (config : Config) (built : List (String × List (Checker σ))) (d : Diff) :
    ∃ between : Action (Running σ) RunSummary,
      (match Assignment.ofConfig config with
        | .ok _ => Does between
          (config.summary built d <$> questioning rec d (config.questions built d.files.toList))
        | .error cause => Does between
          (d.malformed.forM (fun m => rec.record (malformedRecord m)) >>=
            fun _ => throw (.config cause))) ∧
      checkDiff rec config built d =
        (do
          onWorld (rec.record (startRecord config d))
          print startLines
          let summary ← between
          print (finishLines (summary.verdict = .accepted))
          onWorld (rec.record (finishRecord summary))
          return summary) := by
  have hmalformed := Does.forM (fun m => rec.record (malformedRecord m)) d.malformed
  -- the warning about malformed hunks stands between their records and the first question
  have hwarn : ∀ {next : Action (Running σ) RunSummary} {work : Action σ RunSummary},
      Does next work → Does (print [.malformed d.malformed.length] >>= fun _ => next) work :=
    fun h => .afterPrint (by simp [ConsoleLine.isBanner]) h
  cases ha : Assignment.ofConfig config with
  | ok a =>
      have hgroups := (does_runGroups rec config.hasSeveral built (a.groups d.files.toList)).bind
        fun found => Does.pure (⟨d.files.size, found.1, found.2, d.malformed.length⟩ : RunSummary)
      rw [Config.filterMap_groups (Assignment.compiled_of_ofConfig ha).2] at hgroups
      simp only [map_eq_pure_bind, bind_assoc, pure_bind] at hgroups
      dsimp only
      rw [questioning, map_eq_pure_bind, bind_assoc]
      cases hclean : d.isClean with
      | true => exact ⟨_, hmalformed.bind fun _ => hgroups, by simp [checkDiff, ha, hclean]⟩
      | false => exact ⟨_, hmalformed.bind fun _ => hwarn hgroups, by simp [checkDiff, ha, hclean]⟩
  | error cause =>
      have hthrow := Does.throw (σ := σ) (α := RunSummary) (.config cause)
      dsimp only
      cases hclean : d.isClean with
      | true => exact ⟨_, hmalformed.bind fun _ => hthrow, by simp [checkDiff, ha, hclean]⟩
      | false => exact ⟨_, hmalformed.bind fun _ => hwarn hthrow, by simp [checkDiff, ha, hclean]⟩

theorem run_onWorld (work : Action σ α) (r : Running σ) :
    (onWorld work).run.run r = ((work.run.run r.world).1, ⟨(work.run.run r.world).2, r.console⟩) :=
  rfl

theorem run_print (lines : List ConsoleLine) (r : Running σ) :
    (print lines : Action (Running σ) Unit).run.run r = (.ok (), ⟨r.world, r.console ++ lines⟩) :=
  rfl

variable {rec}

/-- How a run can end. -/
inductive RunEnds (rec : Recorder σ) (config : Config) (built : List (String × List (Checker σ)))
    (d : Diff) (r : Running σ) : Except Error RunSummary × Running σ → Prop
  /-- The beginning of the run cannot be recorded, and nothing is printed. -/
  | unopened {e : Error} {w : σ}
      (hstart : (rec.record (startRecord config d)).run.run r.world = (.error e, w)) :
      RunEnds rec config built d r (.error e, ⟨w, r.console⟩)
  /-- Rules do not compile, so no checker is asked, and nothing about a verdict is printed. -/
  | unassigned {cause : ConfigError} {w : σ} {lines : List ConsoleLine}
      (hrules : Assignment.ofConfig config = .error cause)
      (hinquiry : (inquiry rec config d []).run.run r.world = (.ok [], w))
      (hlines : ∀ l ∈ lines, l.isBanner = false) :
      RunEnds rec config built d r (.error (.config cause), ⟨w, r.console ++ startLines ++ lines⟩)
  /-- The inquiry fails, and nothing about a verdict is printed. -/
  | failed {e : Error} {w w₀ : σ} {lines : List ConsoleLine}
      (hstart : (rec.record (startRecord config d)).run.run r.world = (.ok (), w₀))
      (hinquiry : (inquiry rec config d (config.questions built d.files.toList)).run.run r.world =
        (.error e, w))
      (hlines : ∀ l ∈ lines, l.isBanner = false) :
      RunEnds rec config built d r (.error e, ⟨w, r.console ++ startLines ++ lines⟩)
  /-- The verdict is printed, but the end of the run cannot be recorded. -/
  | unfinished {e : Error} {w w' : σ} {lines : List ConsoleLine} {rs : List (Reply σ)}
      (hinquiry : (inquiry rec config d (config.questions built d.files.toList)).run.run r.world =
        (.ok rs, w))
      (hlines : ∀ l ∈ lines, l.isBanner = false)
      (hfinish : (rec.record (finishRecord (config.summary built d rs))).run.run w =
        (.error e, w')) :
      RunEnds rec config built d r (.error e, ⟨w', r.console ++ startLines ++ lines ++
        finishLines ((config.summary built d rs).verdict = .accepted)⟩)
  /-- The verdict is printed, and the end of the run is recorded. -/
  | finished {w w' : σ} {lines : List ConsoleLine} {rs : List (Reply σ)}
      (hinquiry : (inquiry rec config d (config.questions built d.files.toList)).run.run r.world =
        (.ok rs, w))
      (hlines : ∀ l ∈ lines, l.isBanner = false)
      (hfinish : (rec.record (finishRecord (config.summary built d rs))).run.run w = (.ok (), w')) :
      RunEnds rec config built d r (.ok (config.summary built d rs), ⟨w', r.console ++ startLines ++
        lines ++ finishLines ((config.summary built d rs).verdict = .accepted)⟩)

/-- **A run is its inquiry**, between two records and two banners. -/
theorem runEnds_checkDiff (rec : Recorder σ) (config : Config)
    (built : List (String × List (Checker σ))) (d : Diff) (r : Running σ) :
    RunEnds rec config built d r ((checkDiff rec config built d).run.run r) := by
  obtain ⟨between, hbetween, hrun⟩ := exists_between rec config built d
  rw [hrun]
  rcases hstart : (rec.record (startRecord config d)).run.run r.world with ⟨e | ⟨⟩, w₀⟩
  · rw [Action.run_bind, run_onWorld, hstart]
    exact .unopened hstart
  rw [Action.run_bind, run_onWorld, hstart]
  dsimp only
  rw [Action.run_bind_of_ok (run_print _ _)]
  have hinquiry : ∀ qs : List (Question σ), (inquiry rec config d qs).run.run r.world =
      (questioning rec d qs).run.run w₀ := fun qs =>
    Action.run_bind_of_ok hstart fun _ => questioning rec d qs
  cases ha : Assignment.ofConfig config with
  | error cause =>
      rw [ha] at hbetween
      obtain ⟨lines, hlines, hdone⟩ := hbetween ⟨w₀, r.console ++ startLines⟩
      rcases hmalformed : (d.malformed.forM fun m => rec.record (malformedRecord m)).run.run w₀
        with ⟨e | ⟨⟩, w⟩
      · rw [Action.run_bind_of_error hmalformed] at hdone
        rw [Action.run_bind_of_error hdone]
        refine .failed hstart ?_ hlines
        rw [hinquiry, questioning, Action.run_bind_of_error hmalformed]
      · rw [Action.run_bind_of_ok hmalformed] at hdone
        rw [Action.run_bind_of_error hdone]
        refine .unassigned ha ?_ hlines
        rw [hinquiry, questioning, Action.run_bind_of_ok hmalformed]
        rfl
  | ok a =>
      rw [ha] at hbetween
      obtain ⟨lines, hlines, hdone⟩ := hbetween ⟨w₀, r.console ++ startLines⟩
      rw [Action.run_map, ← hinquiry] at hdone
      rcases hasked : (inquiry rec config d (config.questions built d.files.toList)).run.run
        r.world with ⟨e | rs, w⟩
      · rw [hasked] at hdone
        rw [Action.run_bind_of_error hdone]
        exact .failed hstart hasked hlines
      · rw [hasked] at hdone
        rw [Action.run_bind_of_ok hdone, Action.run_bind_of_ok (run_print _ _), Action.run_bind,
          run_onWorld]
        rcases hfinish : (rec.record (finishRecord (config.summary built d rs))).run.run w with
          ⟨e | ⟨⟩, w'⟩
        · exact .unfinished hasked hlines hfinish
        · exact .finished hasked hlines hfinish

end

end StandardsGate
