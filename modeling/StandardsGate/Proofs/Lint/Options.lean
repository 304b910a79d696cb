import StandardsGate.Proofs.Checker.Builtin
import StandardsGate.Proofs.Lint.Correlation

/-!
Which options of a linter are taken.

Four options count: the configuration, the command line, the policy and the time. A checker is built
exactly if they can be read, and otherwise the error is one of configuration. The command line and
the policy are read with an accessor that does not tell an option that is no text from one that is
absent, so such a value does not stop the checker from being built: it is passed over, and the usual
linter or the usual policy stands in its place.

Main definitions:

* `Linting.Meaning` — what the options of a linter come to;
* `Linting.Valid` — options of which each is absent or has a value of its kind.

Main results:

* `Linting.commandOf_eq_ok_iff`, `Linting.readOptions_eq_ok_iff` — the two halves of the options;
* `Linting.buildWithGit_exact` — **which options are taken**.
-/

namespace StandardsGate

/-! ### Reading an option -/

namespace Options

variable {o : Options} {checker key : String}

theorem text?_eq_some_iff {text : String} :
    o.text? key = some text ↔ ∃ v, o.get? key = some v ∧ v.str? = some text :=
  Option.bind_eq_some_iff

theorem text?_of_get? {v : Yaml.Value} (h : o.get? key = some v) : o.text? key = v.str? := by
  rw [text?, h]
  rfl

theorem text?_of_get?_eq_none (h : o.get? key = none) : o.text? key = none := by
  rw [text?, h]
  rfl

/-- A text that is needed is found exactly if there is one. -/
theorem requireText_eq_ok_iff {text : String} :
    o.requireText checker key = .ok text ↔ o.text? key = some text := by
  unfold requireText text?
  cases o.get? key with
  | none => simp
  | some v => cases hv : v.str? <;> simp [hv]

/-- A number is taken if it is above zero, and only an option that is absent has none. -/
theorem positive?_eq_ok_iff {n : Option Nat} :
    o.positive? checker key = .ok n ↔
      o.get? key = none ∧ n = none ∨
        ∃ v k, o.get? key = some v ∧ v.nat? = some k ∧ 0 < k ∧ n = some k := by
  unfold positive?
  cases o.get? key with
  | none => simp [eq_comm]
  | some v =>
      rcases hv : v.nat? with _ | _ | k
      · simp [hv]
      · simp [hv]
      · simp [hv, eq_comm]

end Options

theorem FaultPolicy.parse_eq_ok_iff {value : Option String} {policy : FaultPolicy} :
    FaultPolicy.parse value = .ok policy ↔
      (value = none ∨ value = some "above_one") ∧ policy = .aboveOne ∨
        value = some "exactly_two" ∧ policy = .exactlyTwo := by
  cases value with
  | none => simp [FaultPolicy.parse, eq_comm]
  | some text =>
      by_cases habove : text = "above_one"
      · simp [FaultPolicy.parse, habove, eq_comm]
      · by_cases htwo : text = "exactly_two"
        · simp [FaultPolicy.parse, htwo, eq_comm]
        · simp [FaultPolicy.parse, habove, htwo]

namespace Linting

/-! ### What the options come to -/

/-- What the options of a linter come to. -/
structure Meaning (h : Host) (s : Settings) (command : LintCommand) (config : Path)
    (policy : FaultPolicy) : Prop where
  /-- The configuration is named. -/
  standard : ∃ text, s.options.text? "standard" = some text ∧
    config = s.configPath (.ofString text)
  /-- The configuration is there. -/
  isFile : h.files.isFile h.directory config = true
  /-- A command line that is a text is split into words. -/
  executable : ∀ line, s.options.text? "executable" = some line →
    Words.split line = .ok (command.program :: command.ownArguments)
  /-- Without one, the linter of the installation is run. -/
  installed : s.options.text? "executable" = none →
    command.program = (s.tools.node.join "eslint").text ∧ command.ownArguments = []
  /-- The linter runs at the root of the repository. -/
  directory : command.directory = s.repoRoot
  /-- The time that is declared is a number above zero. -/
  timeout : ∀ v, s.options.get? "timeout_seconds" = some v →
    v.nat? = some command.timeout ∧ 0 < command.timeout
  /-- If none is declared, it is that of the context. -/
  sharedTimeout : s.options.get? "timeout_seconds" = none → command.timeout = s.timeout
  /-- The policy is named, or it is the usual one. -/
  policy : (s.options.text? "tool_failure" = none ∨
      s.options.text? "tool_failure" = some "above_one") ∧ policy = .aboveOne ∨
    s.options.text? "tool_failure" = some "exactly_two" ∧ policy = .exactlyTwo

/-- Whether each option of a linter is absent or has a value of its kind; the configuration must be
named. -/
structure Valid (h : Host) (s : Settings) : Prop where
  standard : ∃ v text, s.options.get? "standard" = some v ∧ v.str? = some text ∧
    h.files.isFile h.directory (s.configPath (.ofString text)) = true
  executable : ∀ v, s.options.get? "executable" = some v → ∃ line program ownArguments,
    v.str? = some line ∧ Words.split line = .ok (program :: ownArguments)
  failure : ∀ v, s.options.get? "tool_failure" = some v →
    v.str? = some "above_one" ∨ v.str? = some "exactly_two"
  timeout : ∀ v, s.options.get? "timeout_seconds" = some v → ∃ n, v.nat? = some n ∧ 0 < n

/-- The time for the linter is that of its option, or else that of the context. -/
theorem effectiveTimeout_eq_ok_iff {s : Settings} {n : Nat} :
    s.effectiveTimeout = .ok n ↔
      (∀ v, s.options.get? "timeout_seconds" = some v → v.nat? = some n ∧ 0 < n) ∧
        (s.options.get? "timeout_seconds" = none → n = s.timeout) := by
  have hresult : s.effectiveTimeout = .ok n ↔
      ∃ own, s.options.positive? s.name "timeout_seconds" = .ok own ∧ own.getD s.timeout = n := by
    unfold Settings.effectiveTimeout
    cases s.options.positive? s.name "timeout_seconds" <;>
      simp [bind, Except.bind, pure, Except.pure]
  rw [hresult]
  simp only [Options.positive?_eq_ok_iff]
  cases s.options.get? "timeout_seconds" with
  | none => simp [eq_comm]
  | some v =>
      constructor
      · rintro ⟨own, ⟨hnone, -⟩ | ⟨w, k, hw, hk, hpos, rfl⟩, rfl⟩
        · cases hnone
        · cases hw
          exact ⟨fun w hw => by cases hw; exact ⟨hk, hpos⟩, fun hnone => by cases hnone⟩
      · rintro ⟨hown, -⟩
        obtain ⟨hn, hpos⟩ := hown v rfl
        exact ⟨some n, .inr ⟨v, n, rfl, hn, hpos, rfl⟩, rfl⟩

theorem ofWords_eq_ok_iff {words : List String} {directory : Path} {timeout : Nat}
    {command : LintCommand} :
    LintCommand.ofWords words directory timeout = .ok command ↔
      words = command.program :: command.ownArguments ∧ command.directory = directory ∧
        command.timeout = timeout := by
  obtain ⟨program, ownArguments, root, time⟩ := command
  cases words with
  | nil => simp [LintCommand.ofWords]
  | cons word words => simp [LintCommand.ofWords, eq_comm, and_assoc]

/-- Which command the options come to. -/
theorem commandOf_eq_ok_iff {s : Settings} {command : LintCommand} :
    commandOf s = .ok command ↔
      ((∀ line, s.options.text? "executable" = some line →
          Words.split line = .ok (command.program :: command.ownArguments)) ∧
        (s.options.text? "executable" = none →
          command.program = (s.tools.node.join "eslint").text ∧ command.ownArguments = [])) ∧
      command.directory = s.repoRoot ∧ s.effectiveTimeout = .ok command.timeout := by
  have hparts : ∀ words : Except ConfigError (List String),
      (words >>= fun words => s.effectiveTimeout >>= fun timeout =>
        LintCommand.ofWords words s.repoRoot timeout) = .ok command ↔
      words = .ok (command.program :: command.ownArguments) ∧
        command.directory = s.repoRoot ∧ s.effectiveTimeout = .ok command.timeout := by
    intro words
    simp only [bind_eq_ok_iff, ofWords_eq_ok_iff]
    constructor
    · rintro ⟨words, hwords, timeout, htimeout, rfl, hdirectory, rfl⟩
      exact ⟨hwords, hdirectory, htimeout⟩
    · rintro ⟨hwords, hdirectory, htimeout⟩
      exact ⟨_, hwords, _, htimeout, rfl, hdirectory, rfl⟩
  unfold commandOf
  cases s.options.text? "executable" with
  | some line => simp [hparts, mapError_eq_ok_iff]
  | none =>
      dsimp only
      rw [hparts]
      simp [pure, Except.pure, eq_comm]

/-- Which configuration and policy the options come to. -/
theorem readOptions_eq_ok_iff {h : Host} {s : Settings} {config : Path} {policy : FaultPolicy} :
    readOptions h s = .ok (config, policy) ↔
      (∃ text, s.options.text? "standard" = some text ∧ config = s.configPath (.ofString text)) ∧
      h.files.isFile h.directory config = true ∧
      FaultPolicy.parse (s.options.text? "tool_failure") = .ok policy := by
  unfold readOptions
  simp only [bind_eq_ok_iff, Options.requireText_eq_ok_iff]
  constructor
  · rintro ⟨text, htext, hrest⟩
    split at hrest
    · cases hrest
    · rename_i hfile
      obtain ⟨policy', hpolicy, hend⟩ := bind_eq_ok_iff.1 hrest
      cases hend
      exact ⟨⟨text, htext, rfl⟩, by simpa using hfile, hpolicy⟩
  · rintro ⟨⟨text, htext, rfl⟩, hfile, hpolicy⟩
    refine ⟨text, htext, ?_⟩
    rw [hfile, hpolicy]
    rfl

theorem meaning_iff {h : Host} {s : Settings} {command : LintCommand} {config : Path}
    {policy : FaultPolicy} :
    Meaning h s command config policy ↔
      commandOf s = .ok command ∧ readOptions h s = .ok (config, policy) := by
  rw [commandOf_eq_ok_iff, readOptions_eq_ok_iff, effectiveTimeout_eq_ok_iff,
    FaultPolicy.parse_eq_ok_iff]
  constructor
  · intro hm
    exact ⟨⟨⟨hm.executable, hm.installed⟩, hm.directory, hm.timeout, hm.sharedTimeout⟩,
      hm.standard, hm.isFile, hm.policy⟩
  · rintro ⟨⟨⟨hexecutable, hinstalled⟩, hdirectory, htimeout, hshared⟩, hstandard, hfile, hpolicy⟩
    exact ⟨hstandard, hfile, hexecutable, hinstalled, hdirectory, htimeout, hshared, hpolicy⟩

/-! ### Building the checker -/

/-- Options that can be read are those of the checker that is built. -/
theorem run_buildWithGit_of_ok {h : Host} {s : Settings} {command : LintCommand} {config : Path}
    {policy : FaultPolicy} (hcommand : commandOf s = .ok command)
    (hoptions : readOptions h s = .ok (config, policy)) :
    (buildWithGit s).run.run h = (.ok (checkerOf s command config policy), h) := by
  have hhost : Hosted.host h = h := rfl
  unfold buildWithGit
  rw [hcommand]
  dsimp only
  unfold build
  rw [Action.run_bind_of_ok (Action.run_get h), hhost, hoptions]
  rfl

/-- Options that cannot be read are an error of configuration. -/
theorem run_buildWithGit_cases (h : Host) (s : Settings) :
    (∃ command config policy, Meaning h s command config policy ∧
      (buildWithGit s).run.run h = (.ok (checkerOf s command config policy), h)) ∨
    ∃ e, (buildWithGit s).run.run h = (.error (.config e), h) := by
  cases hcommand : commandOf s with
  | error e =>
      refine .inr ⟨e, ?_⟩
      unfold buildWithGit
      rw [hcommand]
      rfl
  | ok command =>
      rcases hoptions : readOptions h s with e | ⟨config, policy⟩
      · have hhost : Hosted.host h = h := rfl
        refine .inr ⟨e, ?_⟩
        unfold buildWithGit
        rw [hcommand]
        dsimp only
        unfold build
        rw [Action.run_bind_of_ok (Action.run_get h), hhost, hoptions]
        rfl
      · exact .inl ⟨command, config, policy, meaning_iff.2 ⟨hcommand, hoptions⟩,
          run_buildWithGit_of_ok hcommand hoptions⟩

section

variable {s : Settings}

/-- A valid command line has words, and the linter of the installation stands for an absent one. -/
theorem exists_words (h : ∀ v, s.options.get? "executable" = some v → ∃ line program ownArguments,
      v.str? = some line ∧ Words.split line = .ok (program :: ownArguments)) :
    ∃ program ownArguments,
      (∀ line, s.options.text? "executable" = some line →
        Words.split line = .ok (program :: ownArguments)) ∧
      (s.options.text? "executable" = none →
        program = (s.tools.node.join "eslint").text ∧ ownArguments = []) := by
  cases hget : s.options.get? "executable" with
  | none =>
      rw [Options.text?_of_get?_eq_none hget]
      exact ⟨(s.tools.node.join "eslint").text, [], by simp⟩
  | some v =>
      obtain ⟨line, program, ownArguments, hline, hwords⟩ := h v hget
      rw [Options.text?_of_get? hget, hline]
      refine ⟨program, ownArguments, fun other hother => ?_, fun hnone => by cases hnone⟩
      rwa [← Option.some.inj hother]

theorem exists_timeout (h : ∀ v, s.options.get? "timeout_seconds" = some v →
      ∃ n, v.nat? = some n ∧ 0 < n) :
    ∃ timeout, (∀ v, s.options.get? "timeout_seconds" = some v →
        v.nat? = some timeout ∧ 0 < timeout) ∧
      (s.options.get? "timeout_seconds" = none → timeout = s.timeout) := by
  cases hget : s.options.get? "timeout_seconds" with
  | none => exact ⟨s.timeout, by simp⟩
  | some v =>
      obtain ⟨n, hn⟩ := h v hget
      refine ⟨n, fun w hw => ?_, fun hnone => by cases hnone⟩
      rwa [← Option.some.inj hw]

theorem exists_policy (h : ∀ v, s.options.get? "tool_failure" = some v →
      v.str? = some "above_one" ∨ v.str? = some "exactly_two") :
    ∃ policy : FaultPolicy, (s.options.text? "tool_failure" = none ∨
        s.options.text? "tool_failure" = some "above_one") ∧ policy = .aboveOne ∨
      s.options.text? "tool_failure" = some "exactly_two" ∧ policy = .exactlyTwo := by
  cases hget : s.options.get? "tool_failure" with
  | none => exact ⟨_, .inl ⟨.inl (Options.text?_of_get?_eq_none hget), rfl⟩⟩
  | some v =>
      rw [Options.text?_of_get? hget]
      rcases h v hget with habove | htwo
      · exact ⟨_, .inl ⟨.inr habove, rfl⟩⟩
      · exact ⟨_, .inr ⟨htwo, rfl⟩⟩

end

/-- Options are valid exactly if they can be read and none of the two that are read as texts is
something else. -/
theorem valid_iff {h : Host} {s : Settings} :
    Valid h s ↔ (∃ command config policy, Meaning h s command config policy) ∧
      ∀ key ∈ ["executable", "tool_failure"], ∀ v, s.options.get? key = some v →
        ∃ text, v.str? = some text := by
  constructor
  · intro hvalid
    obtain ⟨v, text, hv, htext, hfile⟩ := hvalid.standard
    obtain ⟨program, ownArguments, hexecutable, hinstalled⟩ := exists_words hvalid.executable
    obtain ⟨timeout, htimeout, hshared⟩ := exists_timeout hvalid.timeout
    obtain ⟨policy, hpolicy⟩ := exists_policy hvalid.failure
    refine ⟨⟨⟨program, ownArguments, s.repoRoot, timeout⟩, _, policy,
      ⟨text, Options.text?_eq_some_iff.2 ⟨v, hv, htext⟩, rfl⟩, hfile, hexecutable, hinstalled, rfl,
      htimeout, hshared, hpolicy⟩, ?_⟩
    rw [List.forall_mem_cons, List.forall_mem_singleton]
    refine ⟨fun v hv => ?_, fun v hv => ?_⟩
    · obtain ⟨line, -, -, hline, -⟩ := hvalid.executable v hv
      exact ⟨line, hline⟩
    · exact (hvalid.failure v hv).elim (⟨_, ·⟩) (⟨_, ·⟩)
  · rintro ⟨⟨command, config, policy, hmeaning⟩, htexts⟩
    rw [List.forall_mem_cons, List.forall_mem_singleton] at htexts
    obtain ⟨hlines, hpolicies⟩ := htexts
    obtain ⟨text, htext, rfl⟩ := hmeaning.standard
    obtain ⟨v, hv, hstr⟩ := Options.text?_eq_some_iff.1 htext
    refine ⟨⟨v, text, hv, hstr, hmeaning.isFile⟩, fun w hw => ?_, fun w hw => ?_, fun w hw =>
      ⟨command.timeout, hmeaning.timeout w hw⟩⟩
    · obtain ⟨line, hline⟩ := hlines w hw
      exact ⟨line, command.program, command.ownArguments, hline,
        hmeaning.executable line ((Options.text?_of_get? hw).trans hline)⟩
    · obtain ⟨name, hname⟩ := hpolicies w hw
      have hpolicy := hmeaning.policy
      rw [Options.text?_of_get? hw, hname] at hpolicy
      rw [hname]
      simpa using hpolicy.imp (·.1) (·.1)

/-- **Which options are taken.** Either a checker is built or the error is one of configuration, and
the host is left as it is. The checker is built exactly if the options come to a command, a
configuration and a policy, and it is the checker for these. If the options are valid, they do; and
if the command line and the policy are texts or absent, they do so only if they are valid. A command
line or a policy that is no text is passed over. -/
theorem buildWithGit_exact (h : Host) (s : Settings) :
    ((∃ checker, (buildWithGit s).run.run h = (.ok checker, h)) ∨
      ∃ e, (buildWithGit s).run.run h = (.error (.config e), h)) ∧
    (∀ checker h', (buildWithGit s).run.run h = (.ok checker, h') ↔
      h' = h ∧ ∃ command config policy, Meaning h s command config policy ∧
        checker = checkerOf s command config policy) ∧
    (Valid h s ↔ (∃ command config policy, Meaning h s command config policy) ∧
      ∀ key ∈ ["executable", "tool_failure"], ∀ v, s.options.get? key = some v →
        ∃ text, v.str? = some text) := by
  refine ⟨?_, fun checker h' => ⟨fun hrun => ?_, ?_⟩, valid_iff⟩
  · obtain ⟨command, config, policy, -, hrun⟩ | hrefused := run_buildWithGit_cases h s
    · exact .inl ⟨_, hrun⟩
    · exact .inr hrefused
  · obtain ⟨command, config, policy, hmeaning, hbuilt⟩ | ⟨e, hrefused⟩ := run_buildWithGit_cases h s
    · cases hbuilt.symm.trans hrun
      exact ⟨rfl, command, config, policy, hmeaning, rfl⟩
    · cases hrefused.symm.trans hrun
  · rintro ⟨rfl, command, config, policy, hmeaning, rfl⟩
    obtain ⟨hcommand, hoptions⟩ := meaning_iff.1 hmeaning
    exact run_buildWithGit_of_ok hcommand hoptions

/-- With the configuration alone, a checker is built. -/
theorem buildWithGit_exact_pair :
    Valid pairHost pairSettings ∧
      ∃ checker, (buildWithGit pairSettings).run.run pairHost = (.ok checker, pairHost) := by
  obtain ⟨-, hbuilt, hvalid⟩ := buildWithGit_exact pairHost pairSettings
  have hget : ∀ key, pairSettings.options.get? key =
      if key = "standard" then some (.str "c") else none := fun key => SortedMap.get?_insert ..
  have hwhole : Valid pairHost pairSettings := by
    refine ⟨⟨.str "c", "c", by simp [hget], rfl, ?_⟩, fun v hv => ?_, fun v hv => ?_,
      fun v hv => ?_⟩
    · obtain ⟨-, hfile, -⟩ := readOptions_eq_ok_iff.1 readOptions_pair
      exact hfile
    all_goals simp [hget] at hv
  obtain ⟨⟨command, config, policy, hmeaning⟩, -⟩ := hvalid.1 hwhole
  exact ⟨hwhole, _, (hbuilt _ _).2 ⟨rfl, command, config, policy, hmeaning, rfl⟩⟩

/-- A command line as a list of words, and a policy by the exit code that is meant. -/
def strayOptions : Options :=
  (pairSettings.options.insert "executable" (.seq [.str "npx", .str "eslint"])).insert
    "tool_failure" (.int 2)

def straySettings : Settings := { pairSettings with options := strayOptions }

theorem stray_evaluated :
    (commandOf straySettings).toOption =
        some ⟨"/g/node_modules/.bin/eslint", [], "/g", 120⟩ ∧
      (readOptions pairHost straySettings).toOption = some (Path.ofString "/g/c", .aboveOne) := by
  decide +kernel

/-- Neither option is refused: another linter is run than was meant, and by another policy. -/
theorem passedOver_stray :
    strayOptions.get? "executable" = some (.seq [.str "npx", .str "eslint"]) ∧
      strayOptions.get? "tool_failure" = some (.int 2) ∧
      (buildWithGit straySettings).run.run pairHost =
        (.ok (checkerOf straySettings ⟨"/g/node_modules/.bin/eslint", [], "/g", 120⟩ "/g/c"
          .aboveOne), pairHost) ∧
      ¬ Valid pairHost straySettings := by
  obtain ⟨hcommand, hoptions⟩ := stray_evaluated
  have hfailure : strayOptions.get? "tool_failure" = some (.int 2) := by
    rw [strayOptions, SortedMap.get?_insert, if_pos rfl]
  refine ⟨?_, hfailure, run_buildWithGit_of_ok (eq_ok_of_toOption hcommand)
    (eq_ok_of_toOption hoptions), fun hvalid => ?_⟩
  · rw [strayOptions, SortedMap.get?_insert, if_neg (by decide), SortedMap.get?_insert, if_pos rfl]
  · rcases hvalid.failure _ hfailure with h | h <;> cases h

end Linting

end StandardsGate
