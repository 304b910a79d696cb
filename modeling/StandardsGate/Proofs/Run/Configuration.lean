import StandardsGate.Proofs.Checker.Builtin
import StandardsGate.Proofs.Lint.Correlation
import StandardsGate.Proofs.Run.Composition
import StandardsGate.Proofs.Run.Inquiry

/-!
When a configuration turns out to be wrong.

What is wrong with rules and with the options of checkers is found before a run begins. One thing is
left to the run: a linter gets a copy of its configuration, and that copy is made when the first file
goes to the linter. If it cannot be made, the run fails although it has begun, and although checkers
before the linter may have answered.

Main definitions:

* `Action.SparesConfig` — work that finds nothing wrong with the configuration.

Main results:

* `Builtin.stageConfig_of_config` — a checker only complains of its configuration when copying it;
* `run_eq_config` — **when a run finds the configuration wrong**.
-/

namespace StandardsGate

open Running

/-! ### Work that finds nothing wrong with the configuration -/

namespace Action

variable {σ α β : Type}

/-- Whether work never fails for the configuration. -/
def SparesConfig (a : Action σ α) : Prop :=
  ∀ s cause s', a.run.run s ≠ (.error (.config cause), s')

namespace SparesConfig

protected theorem pure (a : α) : SparesConfig (pure a : Action σ α) := by
  intro s cause s' h
  cases h

protected theorem get : SparesConfig (get : Action σ σ) := by
  intro s cause s' h
  cases h

protected theorem throw {e : Error} (he : ∀ cause, e ≠ .config cause) :
    SparesConfig (throw e : Action σ α) := by
  intro s cause s' h
  exact he cause (Except.error.inj (Prod.mk.inj h).1)

protected theorem bind {x : Action σ α} {f : α → Action σ β} (hx : SparesConfig x)
    (hf : ∀ a, SparesConfig (f a)) : SparesConfig (x >>= f) := by
  intro s cause s' h
  rcases run_bind_eq_error h with h | ⟨a, t, -, h⟩
  · exact hx _ _ _ h
  · exact hf a _ _ _ h

theorem onHost {ε : Type} {mkError : ε → Error} (hmk : ∀ e cause, mkError e ≠ .config cause)
    (f : Host → Except ε α × Host) : SparesConfig (onHost mkError f) := by
  intro h cause h' hrun
  unfold StandardsGate.onHost at hrun
  rcases hf : f h with ⟨e | a, t⟩
  · simp only [ExceptT.run, StateT.run, hf] at hrun
    exact hmk e cause (Except.error.inj (Prod.mk.inj hrun).1)
  · simp only [ExceptT.run, StateT.run, hf] at hrun
    cases (Prod.mk.inj hrun).1

end SparesConfig

end Action

/-- Events that cannot be recorded have nothing to do with the configuration. -/
theorem EventLog.sparesConfig_record (log : EventLog) (event : Record) :
    (log.recorder.record event).SparesConfig := by
  refine .bind .get fun h => ?_
  unfold EventLog.record
  split
  · refine .bind (.bind .get fun h => ?_) fun _ => .onHost (by simp) _
    split
    · exact .pure _
    · split
      · exact .pure _
      · exact .onHost (by simp) _
  · exact .pure _

namespace Linting

theorem sparesConfig_stagedContent (directory : Path) (file : String) :
    (Git.stagedContent directory file).SparesConfig := by
  refine .bind (.onHost (by simp) _) fun f => ?_
  split
  · exact .pure _
  · exact .throw (by simp [Git.failure])

theorem sparesConfig_run (command : LintCommand) (request : LintRequest) :
    (command.run request).SparesConfig := by
  refine .bind (.onHost (by simp) _) fun f => ?_
  split
  · exact .throw (by simp)
  · exact .pure _
  · exact .pure _

variable {c : Collaborators Host} (hstaged : ∀ file, (c.stagedContent file).SparesConfig)
  (hlint : ∀ request, (c.lint request).SparesConfig)
include hstaged hlint

theorem sparesConfig_lintFile (policy : FaultPolicy) (config : Path) (f : EditedFile) :
    (lintFile c policy config f).SparesConfig := by
  refine .bind (hstaged _) fun content => .bind (hlint _) fun answer => ?_
  by_cases hfault : policy.isFault answer.exitCode = true
  · rw [if_pos hfault]
    refine .bind (.throw (by simp)) fun _ => ?_
    split
    · exact .pure _
    · exact .throw (by simp)
  · rw [if_neg hfault]
    dsimp only
    split
    · exact .pure _
    · exact .throw (by simp)

theorem sparesConfig_lintAll (policy : FaultPolicy) (root config : Path)
    (all files : List EditedFile) : (lintAll c policy root config all files).SparesConfig := by
  induction files with
  | nil => exact .pure _
  | cons f files ih =>
      refine .bind (sparesConfig_lintFile hstaged hlint policy config f) fun report => ?_
      split
      · refine .bind (.bind .get fun h => ?_) fun messages => .bind ih fun later => .pure _
        split
        · exact .pure _
        · exact .throw (by simp)
      · exact .bind (.pure _) fun messages => .bind ih fun later => .pure _

end Linting

/-- **A checker only complains of its configuration when copying it**: it is one that runs a linter,
is meant for a file that it was asked about, and cannot copy what its options name. -/
theorem Builtin.stageConfig_of_config {h h₁ h₂ : Host} {s : Settings} {checker : Checker Host}
    (hbuilt : Builtin h s checker) {files : List EditedFile} {cause : ConfigError}
    (hrun : (checker.checkFiles files).run.run h₁ = (.error (.config cause), h₂)) :
    ∃ command source policy, checker = Linting.checkerOf s command source policy ∧
      Linting.readOptions h s = .ok (source, policy) ∧ (∃ f ∈ files, checker.accepts f = true) ∧
      (stageConfig source s.stagingDir).run.run h₁ = (.error (.config cause), h₂) := by
  by_cases hnone : files.filter checker.accepts = []
  · rw [Checker.checkFiles_of_eq_nil hnone] at hrun
    cases hrun
  obtain ⟨f, hf⟩ := List.exists_mem_of_ne_nil _ hnone
  rw [Checker.checkFiles_of_ne_nil hnone] at hrun
  cases hbuilt with
  | words hpattern => cases hrun
  | @linter command source policy hcommand hoptions =>
      refine ⟨command, source, policy, rfl, hoptions, ⟨f, List.mem_filter.1 hf⟩, ?_⟩
      rcases Action.run_bind_eq_error hrun with hstage | ⟨copy, t, -, hlint⟩
      · exact hstage
      · exact absurd hlint (Linting.sparesConfig_lintAll
          (fun _ => Linting.sparesConfig_stagedContent _ _)
          (fun _ => Linting.sparesConfig_run command _) policy _ copy _ _ _ _ _)

/-! ### Runs -/

/-- **When a run finds the configuration wrong.** If checkers are to be built from a configuration
that was read, and a diff is to be checked with them, and this ends with an error of configuration,
there are two ways. Either a checker could not be built: then nothing has been printed or changed. Or
all of them were built, and the run stopped at one that runs a linter: it was asked about a file that
it is meant for, and its configuration, which had been there, could not be copied. Until then the run
has gone its way: its beginning has been recorded and its first banner has been printed, and the
checkers before have answered. -/
theorem run_eq_config {yaml : String} {config : Config} (hyaml : Config.ofYaml yaml = .ok config)
    {c : RunContext} {log : EventLog} {d : Diff} {h : Host} {cause : ConfigError}
    {r : Running Host}
    (hrun : (onWorld (Registry.builtin.instantiate config c) >>= fun built =>
      checkDiff log.recorder config built d).run.run ⟨h, []⟩ = (.error (.config cause), r)) :
    ((Registry.builtin.instantiate config c).run.run h = (.error (.config cause), h) ∧
      r = ⟨h, []⟩) ∨
    ∃ built front q back rs h₁, ∃ e ∈ config.standards.entries, ∃ k ∈ e.2.checkers.entries,
      ∃ command source policy,
      (Registry.builtin.instantiate config c).run.run h = (.ok built, h) ∧
      config.questions built d.files.toList = front ++ q :: back ∧
      (inquiry log.recorder config d front).run.run h = (.ok rs, h₁) ∧
      q.checker =
        Linting.checkerOf (Registry.declaredSettings c k.1 k.2) command source policy ∧
      Linting.readOptions h (Registry.declaredSettings c k.1 k.2) = .ok (source, policy) ∧
      (∃ f ∈ q.files, q.checker.accepts f = true) ∧
      (stageConfig source c.stagingDir).run.run h₁ = (.error (.config cause), r.world) ∧
      startLines <+: r.console := by
  have hstate := Registry.leavesState_instantiate config c
  rcases Action.run_bind_eq_error hrun with hbuild | ⟨built, r₀, hbuild, hcheck⟩
  · rw [run_onWorld] at hbuild
    obtain ⟨hresult, rfl⟩ := Prod.mk.inj hbuild
    exact .inl ⟨Prod.ext hresult (hstate h), congrArg (Running.mk · []) (hstate h)⟩
  rw [run_onWorld] at hbuild
  obtain ⟨hresult, hr₀⟩ := Prod.mk.inj hbuild
  obtain rfl : ⟨h, []⟩ = r₀ := (congrArg (Running.mk · []) (hstate h)).symm.trans hr₀
  have hbuilt : (Registry.builtin.instantiate config c).run.run h = (.ok built, h) :=
    Prod.ext hresult (hstate h)
  right
  have hends : RunEnds log.recorder config built d ⟨h, []⟩ _ := runEnds_checkDiff _ config built d _
  rw [hcheck] at hends
  have hrecord : ∀ event t, (log.recorder.record event).run.run t ≠
      (.error (.config cause), r.world) := fun event t => log.sparesConfig_record event t _ _
  -- a record never fails for the configuration, so the run stopped at a question
  cases hends with
  | unopened hstart => exact absurd hstart (hrecord _ _)
  | unfinished _ _ hfinish => exact absurd hfinish (hrecord _ _)
  | unassigned hrules =>
      obtain ⟨a, ha, -⟩ := Assignment.exists_ofConfig (Config.compiles_of_ofYaml hyaml)
      rw [ha] at hrules
      cases hrules
  | failed hstart hinquiry hlines =>
      rcases inquiry_eq_error hinquiry with
        ⟨event, t, hfailed⟩ | ⟨front, q, back, rs, t, hsplit, hfront, hq⟩
      · exact absurd hfailed (hrecord _ _)
      have hmem : q ∈ config.questions built d.files.toList := by simp [hsplit]
      obtain ⟨e, he, k, hk, hkind⟩ :=
        Registry.builtin_of_mem hbuilt (Config.of_mem_questions hmem).1
      obtain ⟨command, source, policy, hchecker, hoptions, hfile, hstage⟩ :=
        hkind.stageConfig_of_config hq
      refine ⟨built, front, q, back, rs, t, e, he, k, hk, command, source, policy, hbuilt, hsplit,
        hfront, hchecker, hoptions, hfile, hstage, ?_⟩
      rw [List.nil_append]
      exact List.prefix_append _ _

/-! ### A file in the place of a directory -/

/-- A checker for forbidden words, and one that runs a linter. -/
def occupiedText : String :=
  "main:\n  checkers:\n    words:\n      checker: pattern\n      options:\n" ++
    "        pattern: debugger\n    lint:\n      checker: eslint\n      options:\n" ++
    "        standard: c\n"

def occupiedConfig : Config := (Config.ofYaml occupiedText).toOption.getD default

def occupiedContext : RunContext := .new "/g" "/g" "/g/standards.yml"

/-- A host with a file where the directory for copies of configurations would be. -/
def occupiedHost : Host :=
  { Linting.pairHost with files := Linting.pairHost.files.put Linting.pairCopies (.file [] false) }

def occupiedBuilt : Except Error (List (String × List (Checker Host))) × Host :=
  (Registry.builtin.instantiate occupiedConfig occupiedContext).run.run occupiedHost

def occupiedCheckers : List (String × List (Checker Host)) := occupiedBuilt.1.toOption.getD default

/-- A change of a file with a forbidden word. -/
def occupiedDiff : Diff where
  files := (∅ : EditedFiles).pushAll [(EditedFile.new "a.js").register 1 "debugger;"]
  malformed := []

def occupiedQuestions : List (Question Host) :=
  occupiedConfig.questions occupiedCheckers occupiedDiff.files.toList

/-- What goes wrong with the configuration. -/
def occupiedCause : ConfigError :=
  .stagingDirectory occupiedContext.stagingDir (.os .alreadyExists)

/-- Building the checkers and checking the diff, without a log. -/
def occupiedRun : Except Error RunSummary × Running Host :=
  (onWorld (Registry.builtin.instantiate occupiedConfig occupiedContext) >>= fun built =>
    checkDiff (EventLog.recorder ⟨none⟩) occupiedConfig built occupiedDiff).run.run
      ⟨occupiedHost, []⟩

theorem occupied_evaluated :
    (Config.ofYaml occupiedText).isOk = true ∧ occupiedBuilt.1.isOk = true ∧
      occupiedQuestions.map (·.checker.defaultExtensions) =
        [ForbiddenWords.extensions, Linting.extensions] ∧
      occupiedQuestions.map (fun q => q.files.any q.checker.accepts) = [true, true] ∧
      occupiedContext.stagingDir = Linting.pairCopies.path ∧
      Linting.pairCopies.path.chars.isEmpty = false ∧
      occupiedHost.files.Reaches Linting.pairCopies ∧
      occupiedHost.files.get? Linting.pairCopies = some (.file [] false) := by
  decide +kernel

theorem ofYaml_occupied : Config.ofYaml occupiedText = .ok occupiedConfig := by
  obtain ⟨hyaml, -⟩ := occupied_evaluated
  rw [occupiedConfig]
  exact eq_ok_getD hyaml

theorem instantiate_occupied :
    (Registry.builtin.instantiate occupiedConfig occupiedContext).run.run occupiedHost =
      (.ok occupiedCheckers, occupiedHost) := by
  obtain ⟨-, hbuilt, -⟩ := occupied_evaluated
  have hrun : (Registry.builtin.instantiate occupiedConfig occupiedContext).run.run
      occupiedHost = (.ok occupiedCheckers, occupiedBuilt.2) := by
    rw [occupiedCheckers]
    exact pair_eq_ok_getD hbuilt
  rw [hrun, (Registry.leavesState_instantiate _ _).eq_of_run hrun]

/-- A file is not turned into a directory. -/
theorem stageConfig_occupied (source : Path) :
    (stageConfig source occupiedContext.stagingDir).run.run occupiedHost =
      (.error (.config occupiedCause), occupiedHost) := by
  obtain ⟨-, -, -, -, hstaging, hsome, hreaches, hfile⟩ := occupied_evaluated
  have hmake : occupiedHost.files.makeDirectories occupiedHost.directory
      occupiedContext.stagingDir = (occupiedHost.files, .error (.os .alreadyExists)) := by
    rw [hstaging, FileTree.makeDirectories, hsome, if_neg Bool.false_ne_true,
      FileTree.makeDirectory, FileTree.walk_path_of_some hreaches _ hfile rfl]
    change (_, if FileTree.isDirectory _ _ _ = true then _ else _) = _
    rw [FileTree.isDirectory, FileTree.find_path hreaches _ hfile rfl]
    rfl
  unfold stageConfig
  refine Action.run_bind_of_error (run_onHost_of_error _
    (?_ : _ = (Except.error (IoError.os .alreadyExists), occupiedHost))) _
  rw [hmake]

/-- The checker for forbidden words answers, and the linter cannot be asked. -/
theorem inquiry_occupied :
    (inquiry (EventLog.recorder ⟨none⟩) occupiedConfig occupiedDiff occupiedQuestions).run.run
      occupiedHost = (.error (.config occupiedCause), occupiedHost) := by
  obtain ⟨-, -, hkinds, hfiles, -⟩ := occupied_evaluated
  have hbuiltin : ∀ q ∈ occupiedQuestions, ∃ key d, Builtin occupiedHost
      (Registry.declaredSettings occupiedContext key d) q.checker := by
    intro q hq
    obtain ⟨-, -, d, -, hd⟩ :=
      Registry.builtin_of_mem instantiate_occupied (Config.of_mem_questions hq).1
    exact ⟨d.1, d.2, hd⟩
  have hother : ForbiddenWords.extensions ≠ Linting.extensions := by decide
  obtain ⟨⟨standard, files, words⟩, qs, hquestions, hwords, hqs⟩ := List.map_eq_cons_iff.1 hkinds
  obtain ⟨⟨standard', files', lint⟩, qs, rfl, hlint, hqs⟩ := List.map_eq_cons_iff.1 hqs
  obtain rfl := List.map_eq_nil_iff.1 hqs
  rw [hquestions] at hfiles hbuiltin ⊢
  simp only [List.map_cons, List.map_nil, List.cons.injEq, and_true] at hfiles hwords hlint
  obtain ⟨key, d, hkind⟩ := hbuiltin ⟨standard, files, words⟩ (by simp)
  obtain ⟨messages, hanswer⟩ : ∃ messages, words.checkFiles files = pure messages := by
    cases hkind with
    | words hpattern => exact ⟨_, ForbiddenWords.remarks_checker _ _ _⟩
    | linter hcommand hoptions => exact absurd hwords hother.symm
  obtain ⟨reply, hposed⟩ : ∃ reply, (Question.pose (EventLog.recorder ⟨none⟩)
      ⟨standard, files, words⟩).run.run occupiedHost = (.ok reply, occupiedHost) := by
    unfold Question.pose
    rw [hanswer]
    exact ⟨_, rfl⟩
  obtain ⟨key', d', hkind'⟩ := hbuiltin ⟨standard', files', lint⟩ (by simp)
  have hfails : (lint.checkFiles files').run.run occupiedHost =
      (.error (.config occupiedCause), occupiedHost) := by
    have hsome : files'.filter lint.accepts ≠ [] := by simpa using hfiles.2
    rw [Checker.checkFiles_of_ne_nil hsome]
    cases hkind' with
    | words hpattern => exact absurd hlint hother
    | linter hcommand hoptions => exact Action.run_bind_of_error (stageConfig_occupied _) _
  have hfailed : (Question.pose (EventLog.recorder ⟨none⟩) ⟨standard', files', lint⟩).run.run
      occupiedHost = (.error (.config occupiedCause), occupiedHost) :=
    Action.run_bind_of_error hfails _
  -- nothing is recorded, so what is left of the inquiry are its questions
  change ([_, _].mapM (Question.pose (EventLog.recorder ⟨none⟩))).run.run occupiedHost = _
  rw [List.mapM_cons, Action.run_bind_of_ok hposed, List.mapM_cons, bind_assoc,
    Action.run_bind_of_error hfailed]

/-- The run stops at the linter. -/
theorem run_occupied :
    ∃ lines w, occupiedRun = (.error (.config occupiedCause), ⟨w, startLines ++ lines⟩) := by
  have hbuild : (onWorld (Registry.builtin.instantiate occupiedConfig occupiedContext)).run.run
      ⟨occupiedHost, []⟩ = (.ok occupiedCheckers, ⟨occupiedHost, []⟩) := by
    rw [run_onWorld, instantiate_occupied]
  rw [occupiedRun, Action.run_bind_of_ok hbuild]
  have hinquiry := inquiry_occupied
  have hends := runEnds_checkDiff (EventLog.recorder ⟨none⟩) occupiedConfig occupiedCheckers
    occupiedDiff ⟨occupiedHost, []⟩
  generalize (checkDiff (EventLog.recorder ⟨none⟩) occupiedConfig occupiedCheckers
    occupiedDiff).run.run ⟨occupiedHost, []⟩ = ending at hends ⊢
  cases hends with
  | unopened hstart => cases hstart
  | unassigned hrules =>
      obtain ⟨a, ha, -⟩ := Assignment.exists_ofConfig (Config.compiles_of_ofYaml ofYaml_occupied)
      rw [ha] at hrules
      cases hrules
  | failed hstart hfailed hlines =>
      cases hfailed.symm.trans hinquiry
      exact ⟨_, _, rfl⟩
  | unfinished hanswered => cases hanswered.symm.trans hinquiry
  | finished hanswered => cases hanswered.symm.trans hinquiry

/-- The linter's configuration cannot be copied into a directory that is a file. -/
theorem run_eq_config_occupied :
    Config.ofYaml occupiedText = .ok occupiedConfig ∧
      ∃ built front q back rs h₁ source r, occupiedRun = (.error (.config occupiedCause), r) ∧
        occupiedConfig.questions built occupiedDiff.files.toList = front ++ q :: back ∧
        (inquiry (EventLog.recorder ⟨none⟩) occupiedConfig occupiedDiff front).run.run
          occupiedHost = (.ok rs, h₁) ∧
        (stageConfig source occupiedContext.stagingDir).run.run h₁ =
          (.error (.config occupiedCause), r.world) ∧ startLines <+: r.console := by
  obtain ⟨lines, w, hrun⟩ := run_occupied
  refine ⟨ofYaml_occupied, ?_⟩
  rcases run_eq_config ofYaml_occupied hrun with ⟨hbuild, -⟩ |
    ⟨built, front, q, back, rs, h₁, -, -, -, -, -, source, -, -, hsplit, hfront, -, -, -, hstage,
      hconsole⟩
  · cases hbuild.symm.trans instantiate_occupied
  · exact ⟨built, front, q, back, rs, h₁, source, _, hrun, hsplit, hfront, hstage, hconsole⟩

/-- The configuration was read and its checkers were built, and the first banner was printed before
the configuration turned out to be wrong. -/
theorem config_error_after_start :
    Config.ofYaml occupiedText = .ok occupiedConfig ∧
      (Registry.builtin.instantiate occupiedConfig occupiedContext).run.run occupiedHost =
        (.ok occupiedCheckers, occupiedHost) ∧
      ∃ cause r, occupiedRun = (.error (.config cause), r) ∧ r.console ≠ [] := by
  obtain ⟨lines, w, hrun⟩ := run_occupied
  exact ⟨ofYaml_occupied, instantiate_occupied, _, _, hrun, by simp [startLines, Banner.lines]⟩

end StandardsGate
