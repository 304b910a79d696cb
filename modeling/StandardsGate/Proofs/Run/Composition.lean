import StandardsGate.Checker.Builtin
import StandardsGate.Proofs.Diff.Joining
import StandardsGate.Proofs.Run.Specification

/-!
Runs over parts of a diff.

A checker for forbidden words says something of each file on its own. So a run whose checkers are
all of this kind goes through the files one by one: it rejects a commit exactly if a checker has
something to say of one of its files, and what it says of two diffs about different files, one
behind the other, is what it says of each of them. The only thing that can get between a run and its
outcome is an event that cannot be recorded.

Main definitions:

* `Recorder.Concludes` — whether a run comes to a result, unless an event cannot be recorded;
* `Checker.Remarks` — whether a checker says something of each file on its own;
* `Config.OnlyPatterns` — whether all checkers of a configuration are for forbidden words;
* `Config.outcome` — the outcome of a run in terms of what is said of each file.

Main results:

* `concludes_checkDiff` — **a run comes to its outcome**;
* `Config.verdict_outcome` — a commit is rejected exactly if one of its files is flagged;
* `checkDiff_append` — **the verdict of a diff in two parts**, and the messages of each checker.
-/

namespace StandardsGate

open Running

variable {σ α β : Type}

/-! ### Coming to a result -/

/-- Whether a run comes to a result, unless an event cannot be recorded. -/
def Recorder.Concludes (rec : Recorder σ) (run : Action (Running σ) α) (a : α) : Prop :=
  ∀ r, (∃ r', run.run.run r = (.ok a, r')) ∨
    ∃ event e s s' r', (rec.record event).run.run s = (.error e, s') ∧
      run.run.run r = (.error e, r')

namespace Recorder.Concludes

variable {rec : Recorder σ} {run : Action (Running σ) α} {a : α} {b : β}

/-- If nothing is recorded, the run has the result. -/
theorem eq_ok_of_isIdle (h : rec.Concludes run a) (hrec : rec.IsIdle) (r : Running σ) :
    ∃ r', run.run.run r = (.ok a, r') := by
  rcases h r with hok | ⟨event, e, s, s', r', hfailed, -⟩
  · exact hok
  · rw [hrec event] at hfailed
    cases hfailed

protected theorem pure (a : α) : rec.Concludes (pure a) a := fun r => Or.inl ⟨r, rfl⟩

/-- One part after the other. -/
protected theorem bind {next : α → Action (Running σ) β} (h : rec.Concludes run a)
    (hnext : rec.Concludes (next a) b) : rec.Concludes (run >>= next) b := by
  intro r
  rcases h r with ⟨r', hr⟩ | ⟨event, e, s, s', r', hfailed, hr⟩
  · rw [Action.run_bind_of_ok hr]
    exact hnext r'
  · rw [Action.run_bind_of_error hr]
    exact Or.inr ⟨event, e, s, s', r', hfailed, rfl⟩

/-- A run may look at its state. -/
theorem afterGet {next : Running σ → Action (Running σ) β} (h : ∀ r, rec.Concludes (next r) b) :
    rec.Concludes (get >>= next) b := by
  intro r
  rw [Action.run_bind_of_ok (Action.run_get _)]
  exact h r r

theorem print (lines : List ConsoleLine) : rec.Concludes (print lines) () :=
  fun _ => Or.inl ⟨_, rfl⟩

/-- An event is recorded, or it cannot be. -/
theorem record (event : Record) : rec.Concludes (onWorld (rec.record event)) () := by
  intro r
  have hrun : (onWorld (rec.record event)).run.run r =
      (((rec.record event).run.run r.world).1,
        { r with world := ((rec.record event).run.run r.world).2 }) := rfl
  rcases hrecord : (rec.record event).run.run r.world with ⟨e | ⟨⟩, s'⟩
  · rw [hrecord] at hrun
    exact Or.inr ⟨event, e, r.world, s', _, hrecord, hrun⟩
  · rw [hrecord] at hrun
    exact Or.inl ⟨_, hrun⟩

/-- All events of a list are recorded, or one of them cannot be. -/
theorem recordAll {γ : Type} (event : γ → Record) (cs : List γ) :
    rec.Concludes (cs.forM fun c => onWorld (rec.record (event c))) () := by
  induction cs with
  | nil => exact .pure ()
  | cons c cs ih => exact (record (event c)).bind ih

end Recorder.Concludes

/-! ### Checkers that look at each file on its own -/

/-- Whether a checker says something of each file on its own. -/
def Checker.Remarks (c : Checker σ) (message : EditedFile → Option String) : Prop :=
  ∀ files, c.checkFiles files = pure (files.filterMap message)

/-- A checker for forbidden words says something of the files that it is meant for. -/
theorem ForbiddenWords.remarks_checker (s : Settings) (pattern : Regex) :
    (checker σ s pattern).Remarks fun f =>
      if (checker σ s pattern).accepts f then message? pattern f else none := by
  intro files
  rw [← List.filterMap_filter]
  by_cases h : files.filter (checker σ s pattern).accepts = []
  · rw [Checker.checkFiles_of_eq_nil h, h]
    rfl
  · rw [Checker.checkFiles_of_ne_nil h]
    rfl

/-- Whether all checkers of a configuration are for forbidden words. -/
def Config.OnlyPatterns (config : Config) : Prop :=
  ∀ e ∈ config.standards.entries, ∀ k ∈ e.2.checkers.entries,
    Registry.builtin.canonical k.2.identity = "forbidden_words"

namespace Registry

/-- What is registered for forbidden words is the checker for them. -/
theorem exists_resolve_forbiddenWords {identity : String}
    (h : builtin.canonical identity = "forbidden_words") :
    ∃ registration, builtin.resolve identity = some registration ∧
      ∀ settings s checker s', (registration.build settings).run.run s = (.ok checker, s') →
        ForbiddenWords.build Host settings = .ok checker := by
  rw [resolve, h]
  refine ⟨_, rfl, fun settings s checker s' hrun => ?_⟩
  cases hbuild : ForbiddenWords.build Host settings with
  | error e =>
      simp only [hbuild] at hrun
      cases (Prod.mk.inj hrun).1
  | ok own =>
      simp only [hbuild] at hrun
      exact congrArg Except.ok (Except.ok.inj (Prod.mk.inj hrun).1)

/-- What is built for forbidden words says something of each file on its own. -/
theorem exists_remarks_of_builds {c : RunContext} {k : String × CheckerDeclaration}
    {checker : Checker Host} (hbuilds : builtin.Builds c k checker)
    (hk : builtin.canonical k.2.identity = "forbidden_words") : ∃ m, checker.Remarks m := by
  obtain ⟨s, s', hrun⟩ := hbuilds
  obtain ⟨registration, hresolve, hown⟩ := exists_resolve_forbiddenWords hk
  rw [build, hresolve] at hrun
  obtain ⟨pattern, -, hchecker⟩ := exists_of_bind_eq_ok (hown _ _ _ _ hrun)
  obtain rfl := Except.ok.inj hchecker
  exact ⟨_, ForbiddenWords.remarks_checker _ pattern⟩

/-- What is built for a standard comes from a declaration. -/
theorem exists_builds_of_mem {r : Registry σ} {config : Config} {c : RunContext}
    {built : List (String × List (Checker σ))} {s s' : σ}
    (h : (r.instantiate config c).run.run s = (.ok built, s')) {standard : String}
    {checker : Checker σ} (hchecker : checker ∈ (built.lookup standard).getD []) :
    ∃ e ∈ config.standards.entries, ∃ k ∈ e.2.checkers.entries, r.Builds c k checker := by
  obtain ⟨hkeys, hall⟩ := forall₂_buildStandards config.standards.distinct h
  cases hlookup : built.lookup standard with
  | none =>
      rw [hlookup] at hchecker
      cases hchecker
  | some own =>
      obtain ⟨front, back, hsplit, -⟩ := List.lookup_eq_some_iff.1 hlookup
      obtain ⟨e, he, rfl⟩ := List.mem_map.1 (hkeys (standard, own) (by simp [hsplit]))
      obtain ⟨i, hi, rfl⟩ := List.mem_iff_getElem.1 hchecker
      have hown := hall e he
      have hlength : i < e.2.checkers.entries.length := hown.length_eq ▸ hi
      exact ⟨e, he, e.2.checkers.entries[i], List.getElem_mem hlength,
        List.Forall₂.get hown hlength hi⟩

end Registry

/-! ### One run -/

/-- What checkers say of the files of a standard. -/
def Task.remarks (remark : Checker σ → EditedFile → Option String) (t : Task σ) : Report where
  standard := t.standard
  answers := t.checkers.map fun c => (c.name, t.files.filterMap (remark c))

/-- The outcome of a run in terms of what is said of each file. -/
def Config.outcome (config : Config) (built : List (String × List (Checker σ)))
    (remark : Checker σ → EditedFile → Option String) (d : Diff) : RunSummary :=
  .ofReports d ((config.tasks built d.files.toList).map (Task.remarks remark))

section

variable {rec : Recorder σ} {remark : Checker σ → EditedFile → Option String}
  {built : List (String × List (Checker σ))}

theorem concludes_runChecker {c : Checker σ} (h : c.Remarks (remark c)) (standard : String)
    (files : List EditedFile) :
    rec.Concludes (runChecker rec standard files c)
      (finding? standard (c.name, files.filterMap (remark c))).toList := by
  unfold runChecker
  rw [h files]
  simp only [onWorld_pure, pure_bind]
  refine .afterGet fun _ => .afterGet fun _ => (Recorder.Concludes.record _).bind ?_
  unfold finding?
  by_cases hnone : (files.filterMap (remark c)).isEmpty = true
  · rw [if_pos hnone, if_pos hnone]
    exact .pure _
  · rw [if_neg hnone, if_neg hnone]
    exact (Recorder.Concludes.print _).bind (.pure _)

theorem concludes_runCheckers {cs : List (Checker σ)} (h : ∀ c ∈ cs, c.Remarks (remark c))
    (standard : String) (files : List EditedFile) :
    rec.Concludes (runCheckers rec standard files cs)
      (Task.remarks remark ⟨standard, files, cs⟩).findings := by
  induction cs with
  | nil => exact .pure _
  | cons c cs ih =>
      obtain ⟨hc, hcs⟩ := List.forall_mem_cons.1 h
      have hfindings : (Task.remarks remark ⟨standard, files, c :: cs⟩).findings =
          (finding? standard (c.name, files.filterMap (remark c))).toList ++
            (Task.remarks remark ⟨standard, files, cs⟩).findings := by
        unfold Report.findings Task.remarks
        rw [List.map_cons, List.filterMap_cons]
        cases finding? standard (c.name, files.filterMap (remark c)) <;> rfl
      unfold runCheckers
      rw [hfindings]
      exact (concludes_runChecker hc standard files).bind ((ih hcs).bind (.pure _))

theorem concludes_runGroups
    (h : ∀ standard, ∀ c ∈ (built.lookup standard).getD [], c.Remarks (remark c)) (several : Bool)
    (gs : List Group) :
    rec.Concludes (runGroups rec several built gs)
      (((gs.filterMap (Group.task? built)).map (Task.remarks remark)).map Report.standard,
        ((gs.filterMap (Group.task? built)).map (Task.remarks remark)).flatMap
          Report.findings) := by
  induction gs with
  | nil => exact .pure _
  | cons g gs ih =>
      unfold runGroups
      cases hown : (built.lookup g.standard).getD [] with
      | nil =>
          have htask : g.task? built = none := by simp [Group.task?, hown]
          rw [List.filterMap_cons_none htask]
          exact ih
      | cons c cs =>
          have htask : g.task? built = some ⟨g.standard, g.files, c :: cs⟩ := by
            simp [Group.task?, hown]
          rw [List.filterMap_cons_some htask]
          have hremarks : ∀ c' ∈ c :: cs, c'.Remarks (remark c') := hown ▸ h g.standard
          -- what follows the heading is the same whether there is one or not
          have hrest : rec.Concludes
              (do
                let found ← runCheckers rec g.standard g.files (c :: cs)
                let later ← runGroups rec several built gs
                return (g.standard :: later.1, found ++ later.2)) _ :=
            (concludes_runCheckers hremarks g.standard g.files).bind (ih.bind (.pure _))
          cases several with
          | true => exact (Recorder.Concludes.print _).bind hrest
          | false => exact hrest

/-- **A run comes to its outcome**, unless an event cannot be recorded. -/
theorem concludes_checkDiff {config : Config} {registry : Registry σ} {c : RunContext} {s s' : σ}
    {yaml : String} (hyaml : Config.ofYaml yaml = .ok config)
    (hbuilt : (registry.instantiate config c).run.run s = (.ok built, s'))
    (h : ∀ standard, ∀ c ∈ (built.lookup standard).getD [], c.Remarks (remark c)) (d : Diff) :
    rec.Concludes (checkDiff rec config built d) (config.outcome built remark d) := by
  obtain ⟨a, ha, hcompiled⟩ := Assignment.exists_ofConfig (Config.compiles_of_ofYaml hyaml)
  have hgroups : rec.Concludes
      (runGroups rec config.hasSeveral built (a.groups d.files.toList)) _ :=
    concludes_runGroups h config.hasSeveral (a.groups d.files.toList)
  rw [filterMap_task?_groups hcompiled (Registry.forall₂_instantiate hbuilt)] at hgroups
  have hend : rec.Concludes
      (do
        let found ← runGroups rec config.hasSeveral built (a.groups d.files.toList)
        let summary : RunSummary := ⟨d.files.size, found.1, found.2, d.malformed.length⟩
        print (finishLines (summary.verdict = .accepted))
        onWorld (rec.record (finishRecord summary))
        return summary) (config.outcome built remark d) :=
    hgroups.bind ((Recorder.Concludes.print _).bind
      ((Recorder.Concludes.record _).bind (.pure _)))
  unfold checkDiff
  refine (Recorder.Concludes.record _).bind ((Recorder.Concludes.print _).bind
    ((Recorder.Concludes.recordAll malformedRecord d.malformed).bind ?_))
  simp only [ha, pure_bind]
  by_cases hclean : (!d.isClean) = true
  · rw [if_pos hclean]
    exact (Recorder.Concludes.print _).bind hend
  · rw [if_neg hclean]
    exact hend

end

/-! ### Findings -/

/-- The findings of a configuration's checkers, standard by standard, if the messages of each
checker are given. -/
def Config.findingsOf (config : Config) (built : List (String × List (Checker σ)))
    (messages : String → Checker σ → List String) : List Finding :=
  config.standards.entries.flatMap fun e =>
    ((built.lookup e.1).getD []).filterMap fun c => finding? e.1 (c.name, messages e.1 c)

/-- The messages of a checker about a standard's files. -/
def Config.messagesOf (config : Config) (remark : Checker σ → EditedFile → Option String)
    (d : Diff) (standard : String) (c : Checker σ) : List String :=
  (config.filesOf d.files.toList standard).filterMap (remark c)

theorem finding?_eq_none_iff (standard : String) (answer : String × List String) :
    finding? standard answer = none ↔ answer.2 = [] := by
  unfold finding?
  cases answer.2 <;> simp

/-- There are no findings exactly if no checker has messages. -/
theorem Config.findingsOf_eq_nil_iff {config : Config} {built : List (String × List (Checker σ))}
    {messages : String → Checker σ → List String} :
    config.findingsOf built messages = [] ↔
      ∀ e ∈ config.standards.entries, ∀ c ∈ (built.lookup e.1).getD [], messages e.1 c = [] := by
  simp only [findingsOf, List.flatMap_eq_nil_iff, List.filterMap_eq_nil_iff, finding?_eq_none_iff]

/-- The findings of a run are those of its checkers; standards without files or checkers have
none. -/
theorem Config.findings_outcome {config : Config} {registry : Registry σ} {c : RunContext}
    {built : List (String × List (Checker σ))} {s s' : σ}
    (hbuilt : (registry.instantiate config c).run.run s = (.ok built, s'))
    (remark : Checker σ → EditedFile → Option String) (d : Diff) :
    (config.outcome built remark d).findings =
      config.findingsOf built (config.messagesOf remark d) := by
  have hdeclared := Registry.forall₂_instantiate hbuilt
  change ((config.tasks built d.files.toList).map (Task.remarks remark)).flatMap Report.findings = _
  unfold tasks findingsOf messagesOf
  rw [List.flatMap_map, List.filterMap_eq_flatMap_toList, List.flatMap_assoc]
  refine List.flatMap_congr fun e he => ?_
  by_cases hnone : config.filesOf d.files.toList e.1 = [] ∨ e.2.checkers.entries = []
  · rw [if_pos hnone]
    refine Eq.symm (List.filterMap_eq_nil_iff.2 fun c hc => (finding?_eq_none_iff ..).2 ?_)
    rcases hnone with hfiles | hcheckers
    · simp [hfiles]
    · have hown := hdeclared e he
      rw [hcheckers, List.forall₂_nil_left_iff] at hown
      rw [hown] at hc
      cases hc
  · rw [if_neg hnone]
    simp [Task.remarks, Report.findings, List.filterMap_map]

theorem Verdict.eq_of_rejected_iff {v w : Verdict} (h : v = .rejected ↔ w = .rejected) :
    v = w := by
  cases v <;> cases w <;> simp_all

/-! ### Two diffs -/

/-- The messages about two diffs, one behind the other. -/
theorem Config.messagesOf_join (config : Config)
    (remark : Checker σ → EditedFile → Option String) {d₁ d₂ : Diff}
    (hdisjoint : ∀ n ∈ d₁.files.names, n ∉ d₂.files.names) (standard : String) (c : Checker σ) :
    config.messagesOf remark (d₁.join d₂) standard c =
      config.messagesOf remark d₁ standard c ++ config.messagesOf remark d₂ standard c := by
  unfold messagesOf filesOf
  rw [Diff.toList_files_join hdisjoint, List.filter_append, List.filterMap_append]

/-- **The verdict of a diff in two parts.** -/
theorem Config.verdict_outcome_join {config : Config} {registry : Registry σ} {c : RunContext}
    {built : List (String × List (Checker σ))} {s s' : σ}
    (hbuilt : (registry.instantiate config c).run.run s = (.ok built, s'))
    (remark : Checker σ → EditedFile → Option String) {d₁ d₂ : Diff}
    (hdisjoint : ∀ n ∈ d₁.files.names, n ∉ d₂.files.names) :
    (config.outcome built remark (d₁.join d₂)).verdict = .rejected ↔
      (config.outcome built remark d₁).verdict = .rejected ∨
        (config.outcome built remark d₂).verdict = .rejected := by
  simp only [RunSummary.verdict_eq_rejected_iff, findings_outcome hbuilt, ne_eq,
    findingsOf_eq_nil_iff, messagesOf_join config remark hdisjoint, List.append_eq_nil_iff]
  rw [← not_and_or]
  exact not_congr ⟨fun h => ⟨fun e he c hc => (h e he c hc).1, fun e he c hc => (h e he c hc).2⟩,
    fun h e he c hc => ⟨h.1 e he c hc, h.2 e he c hc⟩⟩

/-- **The verdict of a diff in two parts, and the messages of each checker.** Let all checkers of a
configuration be for forbidden words, and let two texts have diffs about different files; the first
text ends with a line, and the second one begins with a file. Then the text that has the one behind
the other has a diff. Unless an event cannot be recorded, the run over it and those over both parts
come to an outcome. The commit is rejected exactly if one of the parts is, and each checker of each
standard has the messages about the first part and behind them those about the second one. If the
texts can also be put in the other order, the verdict is the same. -/
theorem checkDiff_append {yaml : String} {config : Config} {context : RunContext}
    {built : List (String × List (Checker Host))} {h h' : Host} {t₁ t₂ : String} {d₁ d₂ : Diff}
    (hyaml : Config.ofYaml yaml = .ok config)
    (hbuilt : (Registry.builtin.instantiate config context).run.run h = (.ok built, h'))
    (hpatterns : config.OnlyPatterns) (h₁ : Diff.parse t₁ = .ok d₁) (h₂ : Diff.parse t₂ = .ok d₂)
    (hend : ∀ x ∈ t₁.toList.getLast?, x = '\n') (hbegin : Diff.fileMarker <+: t₂.toList)
    (hdisjoint : ∀ n ∈ d₁.files.names, n ∉ d₂.files.names) (rec : Recorder Host) :
    ∃ d s s₁ s₂ messages₁ messages₂, Diff.parse (t₁ ++ t₂) = .ok d ∧
      rec.Concludes (checkDiff rec config built d) s ∧
      rec.Concludes (checkDiff rec config built d₁) s₁ ∧
      rec.Concludes (checkDiff rec config built d₂) s₂ ∧
      (s.verdict = .rejected ↔ s₁.verdict = .rejected ∨ s₂.verdict = .rejected) ∧
      (∀ e ∈ config.standards.entries, ∀ c ∈ (built.lookup e.1).getD [],
        c.checkFiles (config.filesOf d₁.files.toList e.1) = pure (messages₁ e.1 c) ∧
        c.checkFiles (config.filesOf d₂.files.toList e.1) = pure (messages₂ e.1 c) ∧
        c.checkFiles (config.filesOf d.files.toList e.1) =
          pure (messages₁ e.1 c ++ messages₂ e.1 c)) ∧
      s₁.findings = config.findingsOf built messages₁ ∧
      s₂.findings = config.findingsOf built messages₂ ∧
      s.findings = config.findingsOf built (fun n c => messages₁ n c ++ messages₂ n c) ∧
      ((∀ x ∈ t₂.toList.getLast?, x = '\n') → Diff.fileMarker <+: t₁.toList →
        ∃ d' s', Diff.parse (t₂ ++ t₁) = .ok d' ∧
          rec.Concludes (checkDiff rec config built d') s' ∧ s'.verdict = s.verdict) := by
  have hown : ∀ c : Checker Host, (∃ standard, c ∈ (built.lookup standard).getD []) →
      ∃ m, c.Remarks m := by
    rintro c ⟨standard, hc⟩
    obtain ⟨e, he, k, hk, hbuilds⟩ := Registry.exists_builds_of_mem hbuilt hc
    exact Registry.exists_remarks_of_builds hbuilds (hpatterns e he k hk)
  choose! remark hremark using hown
  have hremarks : ∀ standard, ∀ c ∈ (built.lookup standard).getD [], c.Remarks (remark c) :=
    fun standard c hc => hremark c ⟨standard, hc⟩
  have hrun : ∀ d, rec.Concludes (checkDiff rec config built d) (config.outcome built remark d) :=
    concludes_checkDiff hyaml hbuilt hremarks
  have hverdict := Config.verdict_outcome_join hbuilt remark hdisjoint
  refine ⟨d₁.join d₂, _, _, _, config.messagesOf remark d₁, config.messagesOf remark d₂,
    Diff.parse_append h₁ h₂ hend hbegin, hrun _, hrun _, hrun _, hverdict, ?_,
    Config.findings_outcome hbuilt remark d₁, Config.findings_outcome hbuilt remark d₂, ?_, ?_⟩
  · intro e he c hc
    have hchecked := fun d : Diff => hremarks e.1 c hc (config.filesOf d.files.toList e.1)
    refine ⟨hchecked d₁, hchecked d₂, ?_⟩
    rw [hchecked (d₁.join d₂), ← Config.messagesOf_join config remark hdisjoint]
    rfl
  · rw [Config.findings_outcome hbuilt]
    refine congrArg _ (funext fun n => funext fun c => ?_)
    exact Config.messagesOf_join config remark hdisjoint n c
  · intro hend₂ hbegin₁
    have hother : ∀ n ∈ d₂.files.names, n ∉ d₁.files.names := fun n hn hn' => hdisjoint n hn' hn
    refine ⟨d₂.join d₁, _, Diff.parse_append h₂ h₁ hend₂ hbegin₁, hrun _, ?_⟩
    have hswapped := Config.verdict_outcome_join hbuilt remark hother
    rw [or_comm, ← hverdict] at hswapped
    exact Verdict.eq_of_rejected_iff hswapped

/-- If all checkers of a configuration are for forbidden words, each says something of each file on
its own. -/
theorem Config.exists_remark_of_onlyPatterns {config : Config} {context : RunContext}
    {built : List (String × List (Checker Host))} {h h' : Host}
    (hbuilt : (Registry.builtin.instantiate config context).run.run h = (.ok built, h'))
    (hpatterns : config.OnlyPatterns) :
    ∃ remark : Checker Host → EditedFile → Option String,
      ∀ standard, ∀ c ∈ (built.lookup standard).getD [], c.Remarks (remark c) := by
  have hown : ∀ c : Checker Host, (∃ standard, c ∈ (built.lookup standard).getD []) →
      ∃ m, c.Remarks m := by
    rintro c ⟨standard, hc⟩
    obtain ⟨e, he, k, hk, hbuilds⟩ := Registry.exists_builds_of_mem hbuilt hc
    exact Registry.exists_remarks_of_builds hbuilds (hpatterns e he k hk)
  choose! remark hremark using hown
  exact ⟨remark, fun standard c hc => hremark c ⟨standard, hc⟩⟩

/-! ### A word in one of two files -/

instance Config.decidableOnlyPatterns (config : Config) : Decidable config.OnlyPatterns :=
  inferInstanceAs (Decidable (∀ e ∈ config.standards.entries, _))

def wordsText : String :=
  "main:\n  checkers:\n    words:\n      checker: pattern\n      options:\n" ++
    "        pattern: debugger\n"

def wordsConfig : Config := (Config.ofYaml wordsText).toOption.getD default

/-- A host on which nothing is read. -/
def wordsHost : Host where
  files := .empty
  directory := []
  executable := "/gate/guard"
  input := []
  actor := "guard"
  now := ⟨0, 0⟩
  processId := 1
  writes := 0
  start _ _ t := (.error (.os .notFound), t)

def wordsBuilt : Except Error (List (String × List (Checker Host))) × Host :=
  (Registry.builtin.instantiate wordsConfig notingContext).run.run wordsHost

def wordsCheckers : List (String × List (Checker Host)) := wordsBuilt.1.toOption.getD default

/-- A new file with a forbidden word, and one without. -/
def wordsParts : String × String :=
  ("+++ b/a.js\n@@ -0,0 +1 @@\n+debugger;\n", "+++ b/b.js\n@@ -0,0 +1 @@\n+x\n")

def wordsDiffs : Diff × Diff :=
  ((Diff.parse wordsParts.1).toOption.getD default, (Diff.parse wordsParts.2).toOption.getD default)

theorem words_evaluated :
    (Config.ofYaml wordsText).isOk = true ∧ wordsBuilt.1.isOk = true ∧ wordsConfig.OnlyPatterns ∧
      (wordsCheckers.lookup "main").map List.length = some 1 ∧
      (Diff.parse wordsParts.1).isOk = true ∧ (Diff.parse wordsParts.2).isOk = true ∧
      wordsParts.1.toList.getLast? = some '\n' ∧ Diff.fileMarker <+: wordsParts.2.toList ∧
      ∀ n ∈ wordsDiffs.1.files.names, n ∉ wordsDiffs.2.files.names := by
  decide +kernel

theorem ofYaml_words : Config.ofYaml wordsText = .ok wordsConfig := by
  obtain ⟨hyaml, -⟩ := words_evaluated
  rw [wordsConfig]
  exact eq_ok_getD hyaml

theorem instantiate_words :
    (Registry.builtin.instantiate wordsConfig notingContext).run.run wordsHost =
      (.ok wordsCheckers, wordsBuilt.2) := by
  obtain ⟨-, hbuilt, -⟩ := words_evaluated
  rw [wordsCheckers]
  exact pair_eq_ok_getD hbuilt

/-- A run over both files judges them by the verdicts of the runs over each of them. -/
theorem checkDiff_append_words :
    Config.ofYaml wordsText = .ok wordsConfig ∧
      (Registry.builtin.instantiate wordsConfig notingContext).run.run wordsHost =
        (.ok wordsCheckers, wordsBuilt.2) ∧
      wordsConfig.OnlyPatterns ∧ (wordsCheckers.lookup "main").map List.length = some 1 ∧
      Diff.parse wordsParts.1 = .ok wordsDiffs.1 ∧ Diff.parse wordsParts.2 = .ok wordsDiffs.2 ∧
      ∃ d s s₁ s₂ r r₁ r₂, Diff.parse (wordsParts.1 ++ wordsParts.2) = .ok d ∧
        (checkDiff (EventLog.recorder ⟨none⟩) wordsConfig wordsCheckers d).run.run
          ⟨wordsHost, []⟩ = (.ok s, r) ∧
        (checkDiff (EventLog.recorder ⟨none⟩) wordsConfig wordsCheckers wordsDiffs.1).run.run
          ⟨wordsHost, []⟩ = (.ok s₁, r₁) ∧
        (checkDiff (EventLog.recorder ⟨none⟩) wordsConfig wordsCheckers wordsDiffs.2).run.run
          ⟨wordsHost, []⟩ = (.ok s₂, r₂) ∧
        (s.verdict = .rejected ↔ s₁.verdict = .rejected ∨ s₂.verdict = .rejected) := by
  obtain ⟨hyaml, hbuilt, hpatterns, hchecker, hfirst, hsecond, hlast, hbegin, hdisjoint⟩ :=
    words_evaluated
  have hend : ∀ x ∈ wordsParts.1.toList.getLast?, x = '\n' := fun x hx =>
    (Option.some.inj (hlast.symm.trans hx)).symm
  have hconfig : Config.ofYaml wordsText = .ok wordsConfig := by
    rw [wordsConfig]
    exact eq_ok_getD hyaml
  have hcheckers : (Registry.builtin.instantiate wordsConfig notingContext).run.run wordsHost =
      (.ok wordsCheckers, wordsBuilt.2) := by
    rw [wordsCheckers]
    exact pair_eq_ok_getD hbuilt
  have hparse₁ : Diff.parse wordsParts.1 = .ok wordsDiffs.1 := eq_ok_getD hfirst
  have hparse₂ : Diff.parse wordsParts.2 = .ok wordsDiffs.2 := eq_ok_getD hsecond
  obtain ⟨d, s, s₁, s₂, -, -, hparse, hrun, hrun₁, hrun₂, hverdict, -⟩ :=
    checkDiff_append hconfig hcheckers hpatterns hparse₁ hparse₂ hend hbegin hdisjoint
      (EventLog.recorder ⟨none⟩)
  obtain ⟨r, hr⟩ := hrun.eq_ok_of_isIdle EventLog.isIdle_recorder ⟨wordsHost, []⟩
  obtain ⟨r₁, hr₁⟩ := hrun₁.eq_ok_of_isIdle EventLog.isIdle_recorder ⟨wordsHost, []⟩
  obtain ⟨r₂, hr₂⟩ := hrun₂.eq_ok_of_isIdle EventLog.isIdle_recorder ⟨wordsHost, []⟩
  exact ⟨hconfig, hcheckers, hpatterns, hchecker, hparse₁, hparse₂, d, s, s₁, s₂, r, r₁, r₂,
    hparse, hr, hr₁, hr₂, hverdict⟩

end StandardsGate
