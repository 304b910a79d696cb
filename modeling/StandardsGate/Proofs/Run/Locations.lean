import StandardsGate.CommandLine.Answer
import StandardsGate.Host.Loading
import StandardsGate.Proofs.Host.Writing
import StandardsGate.Proofs.Path
import StandardsGate.Proofs.Text.Blank

/-!
Where a run finds things.

Whatever a command line says, the locations of the run that it asks for are absolute: what is given is
read from the working directory on, the rest lies below the installation, and git prints the root of
the repository as an absolute path. The directory of the standards file is the one exception. It is
the parent of that file, and if the root directory is named as the standards file, there is none: a
dot stands in for it. No run gets past its configuration then, since a directory cannot be read.

Main definitions:

* `RunContext.IsRooted` — whether the locations of a run are absolute, but for the directory of its
  standards file;
* `Git.PrintsAbsolute` — whether git prints an absolute path for the root of the repository.

Main results:

* `CheckArgs.isRooted_context` — **the locations of a run are absolute**, and when the directory of its
  standards file is;
* `CheckArgs.isAbsolute_configDir_of_prepare` — it is for every run that gets past its configuration.
-/

namespace StandardsGate

/-- The path of a location is absolute. -/
theorem Location.isAbsolute_path (l : Location) : l.path.isAbsolute = true := by
  cases l <;> rfl

/-- Whether the locations of a run are absolute, but for the directory of its standards file. -/
structure RunContext.IsRooted (c : RunContext) : Prop where
  scriptPath : c.scriptPath.isAbsolute = true
  composer : c.tools.composer.isAbsolute = true
  node : c.tools.node.isAbsolute = true
  repoRoot : c.repoRoot.isAbsolute = true
  standardsPath : c.standardsPath.isAbsolute = true
  stagingDir : c.stagingDir.isAbsolute = true
  eventsLog : ∀ p ∈ c.eventsLog, p.isAbsolute = true

/-! ### The root of the repository -/

namespace Git

/-- The question for the root of the repository that the working directory belongs to. -/
def rootInvocation (h : Host) : Invocation :=
  invocation h.directoryPath ["rev-parse", "--show-toplevel"]

/-- Whether git, if it ends well, prints an absolute path for the root of the repository: what it
prints begins with a slash. -/
def PrintsAbsolute (h : Host) : Prop :=
  ∀ f, (h.launch (rootInvocation h)).1 = .ok f → f.ending = .exited 0 →
    f.output.head? = some '/'.toNat.toUInt8

/-- What is printed from a slash on is an absolute path, without the blanks around it. -/
theorem isAbsolute_printed {bs : Bytes} (h : bs.head? = some '/'.toNat.toUInt8) :
    (Path.ofString (printed bs)).isAbsolute = true := by
  obtain ⟨rest, rfl⟩ := List.head?_eq_some_iff.1 h
  have hruns : Utf8.decodeRuns ('/'.toNat.toUInt8 :: rest) = some '/' :: Utf8.decodeRuns rest := by
    rw [Utf8.decodeRuns]
    rfl
  have hchars : (printed ('/'.toNat.toUInt8 :: rest)).toList =
      Text.trimChars ('/' :: Utf8.decodeChars rest) := by
    rw [printed, Text.trim, Utf8.decodeLossy, Utf8.decodeChars, hruns, String.toList_ofList,
      String.toList_ofList]
    rfl
  have hhead := Text.head?_trimChars (c := '/') rfl (Utf8.decodeChars rest)
  rw [Path.isAbsolute, Path.ofString, hchars, hhead]
  rfl

end Git

/-! ### The locations of a run -/

namespace RunContext

variable {scriptPath repoRoot standardsPath : Path}

/-- A context is rooted if its main locations are absolute. -/
theorem isRooted_new (hscript : scriptPath.isAbsolute = true) (hrepo : repoRoot.isAbsolute = true)
    (hstandards : standardsPath.isAbsolute = true) :
    (new scriptPath repoRoot standardsPath).IsRooted := by
  have hbelow : ∀ {dir name : Path}, name.isAbsolute = false → dir.isAbsolute = true →
      (dir.join name).isAbsolute = true := fun hname hdir => (Path.isAbsolute_join hname).trans hdir
  exact ⟨hscript, hbelow (by decide) (hbelow (by decide) hscript),
    hbelow (by decide) (hbelow (by decide) hscript), hrepo, hstandards, hbelow (by decide) hscript,
    nofun⟩

/-- The directory of a standards file is absolute, unless that is the root directory. -/
theorem isAbsolute_configDir_new (scriptPath repoRoot : Path)
    (hstandards : standardsPath.isAbsolute = true) :
    (new scriptPath repoRoot standardsPath).configDir.isAbsolute = true ↔
      standardsPath.components ≠ [.root] := by
  have hroot : standardsPath.components = [.root] ↔ standardsPath.parent? = none := by
    obtain ⟨rest, hcs⟩ := List.head?_eq_some_iff.1 (by simpa [Path.isAbsolute] using hstandards)
    rw [Path.parent?_eq_none_iff hstandards, Path.components_eq, hcs, Path.lead]
    simp
  rw [Ne, hroot, new]
  cases hparent : standardsPath.parent? with
  | none => simp [Path.isAbsolute, Path.ofString]
  | some b => simp [Path.isAbsolute_parent? hparent, hstandards]

end RunContext

/-- What fails is made good. -/
theorem Action.run_tryCatch {σ α : Type} (x : Action σ α) (handle : Error → Action σ α) (s : σ) :
    (tryCatch x handle).run.run s =
      match x.run.run s with
      | (.ok a, s) => (.ok a, s)
      | (.error e, s) => (handle e).run.run s := by
  rw [ExceptT.run_tryCatch, StateT.run_bind]
  rcases x.run.run s with ⟨result, s'⟩
  cases result <;> rfl

namespace CheckArgs

variable {a : CheckArgs} {h h' : Host} {c : RunContext}

/-- The installation is where the program is. -/
theorem isAbsolute_installation {p : Path} (hexecutable : h.executable.isAbsolute = true)
    (hrun : installation.run.run h = (.ok p, h')) : p.isAbsolute = true ∧ h' = h := by
  rw [installation, Action.run_bind_of_ok (Action.run_get h)] at hrun
  dsimp only at hrun
  cases hparent : h.executable.parent? with
  | none => rw [hparent] at hrun; cases hrun
  | some q =>
      rw [hparent] at hrun
      cases hrun
      exact ⟨(Path.isAbsolute_parent? hparent).trans hexecutable, rfl⟩

/-- The root of the repository is what git prints. -/
theorem isAbsolute_gitRoot {p : Path} (hgit : Git.PrintsAbsolute h)
    (hrun : (Git.repositoryRoot h.directoryPath).run.run h = (.ok p, h')) :
    p.isAbsolute = true := by
  obtain ⟨f, s, hlaunch, hrun⟩ := Action.run_bind_eq_ok hrun
  have hfinished : (h.launch (Git.rootInvocation h)).1 = .ok f :=
    congrArg Prod.fst (eq_ok_of_run_onHost hlaunch)
  by_cases hended : f.ending = .exited 0
  · rw [if_pos hended] at hrun
    obtain rfl : .ofString (Git.printed f.output) = p := Except.ok.inj (Prod.mk.inj hrun).1
    exact Git.isAbsolute_printed (hgit f hfinished hended)
  · rw [if_neg hended] at hrun
    cases hrun

/-- The root of the repository is what git prints, or the working directory. -/
theorem isAbsolute_repositoryRoot {p : Path} (hgit : Git.PrintsAbsolute h)
    (hrun : (a.repositoryRoot h.directoryPath).run.run h = (.ok p, h')) : p.isAbsolute = true := by
  unfold repositoryRoot at hrun
  split at hrun
  · rw [Action.run_tryCatch] at hrun
    rcases hroot : (Git.repositoryRoot h.directoryPath).run.run h with ⟨e | q, s⟩
    · rw [hroot] at hrun
      cases hrun
      exact Location.isAbsolute_path h.directory
    · rw [hroot] at hrun
      cases hrun
      exact isAbsolute_gitRoot hgit hroot
  · exact isAbsolute_gitRoot hgit hrun

/-- With the installation at hand, the rest of the locations are found. -/
theorem isRooted_of_installation {scriptPath : Path} (hgit : Git.PrintsAbsolute h)
    (hscript : scriptPath.isAbsolute = true)
    (hrun : (do
      let repoRoot ← a.repositoryRoot h.directoryPath
      match standardsPath (← get) a.standardsConfig scriptPath h.directoryPath with
      | .error e => throw (.config e)
      | .ok standards =>
        let c := RunContext.new scriptPath repoRoot (standards.absolutize h.directoryPath)
        return { c with
          stagingDir := (a.stagingDir.map (·.absolutize h.directoryPath)).getD c.stagingDir
          timeout := a.timeout
          eventsLog := a.eventsLog.map (·.absolutize h.directoryPath) } :
        Action Host RunContext).run.run h = (.ok c, h')) :
    c.IsRooted ∧ (c.configDir.isAbsolute = true ↔ c.standardsPath.components ≠ [.root]) := by
  have habsolute : ∀ p : Path, (p.absolutize h.directoryPath).isAbsolute = true := fun p =>
    Path.isAbsolute_absolutize (Location.isAbsolute_path h.directory)
  obtain ⟨repoRoot, s, hrepo, hrun⟩ := Action.run_bind_eq_ok hrun
  rw [Action.run_bind_of_ok (Action.run_get s)] at hrun
  cases hstandards : standardsPath s a.standardsConfig scriptPath h.directoryPath with
  | error e => rw [hstandards] at hrun; cases hrun
  | ok standards =>
      rw [hstandards] at hrun
      cases hrun
      have hnew := RunContext.isRooted_new hscript (isAbsolute_repositoryRoot hgit hrepo)
        (habsolute standards)
      have hconfig := RunContext.isAbsolute_configDir_new scriptPath repoRoot (habsolute standards)
      refine ⟨{ hnew with stagingDir := ?_, eventsLog := ?_ }, hconfig⟩
      · cases a.stagingDir with
        | none => exact hnew.stagingDir
        | some p => exact habsolute p
      · cases a.eventsLog with
        | none => nofun
        | some p =>
            rintro q ⟨⟩
            exact habsolute p

/-- **The locations of a run are absolute**, if git prints absolute paths. So is the directory of its
standards file, unless that is the root directory. -/
theorem isRooted_context (hgit : Git.PrintsAbsolute h)
    (hexecutable : a.scriptPath = none → h.executable.isAbsolute = true)
    (hrun : a.context.run.run h = (.ok c, h')) :
    c.IsRooted ∧ (c.configDir.isAbsolute = true ↔ c.standardsPath.components ≠ [.root]) := by
  unfold context at hrun
  by_cases htimeout : a.timeout = 0
  · rw [if_pos htimeout] at hrun
    cases hrun
  rw [if_neg htimeout, Action.run_bind_of_ok (Action.run_get h)] at hrun
  dsimp only at hrun
  cases hscript : a.scriptPath with
  | some p =>
      rw [hscript] at hrun
      exact isRooted_of_installation hgit
        (Path.isAbsolute_absolutize (Location.isAbsolute_path h.directory)) hrun
  | none =>
      rw [hscript] at hrun
      obtain ⟨scriptPath, s, hat, hrun⟩ := Action.run_bind_eq_ok hrun
      obtain ⟨hroot, rfl⟩ := isAbsolute_installation (hexecutable hscript) hat
      exact isRooted_of_installation hgit hroot hrun

/-! ### Two command lines -/

section Surroundings

/-- A host that works in a directory `w`, in which an installation `g` has standards. Git finds the
repository there. -/
def surroundings : Host where
  files := FileTree.empty.place "/w/g/config/standards.yml" []
  directory := [['w']]
  executable := "/bin/guard"
  input := []
  actor := "guard"
  now := ⟨0, 0⟩
  processId := 1
  writes := 0
  start _ _ files := (.ok ⟨.exited 0, Utf8.encode "/w\n", []⟩, files)

/-- A check with an installation, and with standards if they are requested. -/
def checkWith (standardsConfig : Option Path) : CheckArgs :=
  ⟨standardsConfig, none, 120, some "g", none, some "events.ndjson"⟩

theorem printsAbsolute_surroundings : Git.PrintsAbsolute surroundings := by
  rintro f ⟨⟩ -
  decide

theorem context_surroundings :
    ((checkWith none).context.run.run surroundings).1.toOption =
        some { RunContext.new "/w/g" "/w" "/w/g/config/standards.yml" with
          eventsLog := some "/w/events.ndjson" } ∧
      ((checkWith (some "/")).context.run.run surroundings).1.toOption =
        some { RunContext.new "/w/g" "/w" "/" with eventsLog := some "/w/events.ndjson" } := by
  decide +kernel

/-- The locations of a check with the standards of its installation are absolute. -/
theorem isRooted_context_surroundings :
    ∃ c h', (checkWith none).context.run.run surroundings = (.ok c, h') ∧ c.IsRooted ∧
      c.configDir.isAbsolute = true := by
  obtain ⟨h', hrun⟩ := exists_pair_of_toOption context_surroundings.1
  obtain ⟨hrooted, hconfig⟩ := isRooted_context printsAbsolute_surroundings
    (fun hnone => absurd hnone (by decide)) hrun
  exact ⟨_, h', hrun, hrooted, hconfig.2 (by decide)⟩

/-- If the root directory is requested as the standards file, a dot stands in for the directory of that
file. -/
theorem not_isAbsolute_configDir_root :
    Git.PrintsAbsolute surroundings ∧ ∃ c h',
      (checkWith (some "/")).context.run.run surroundings = (.ok c, h') ∧ c.configDir = "." ∧
        c.configDir.isAbsolute = false := by
  obtain ⟨h', hrun⟩ := exists_pair_of_toOption context_surroundings.2
  exact ⟨printsAbsolute_surroundings, _, h', hrun, by decide, by decide⟩

end Surroundings

/-! ### Runs that get past their configuration -/

/-- What can be read is not the root directory. -/
theorem components_ne_root_of_load {config : Config} {file : Path}
    (hload : (Config.load file).run.run h = (.ok config, h')) : file.components ≠ [.root] := by
  obtain ⟨yaml, s, htext, -⟩ := Action.run_bind_eq_ok hload
  obtain ⟨bs, hread, -⟩ := exists_of_bind_eq_ok (congrArg Prod.fst (eq_ok_of_run_onHost htext))
  obtain ⟨l, runnable, hfind⟩ := FileTree.exists_find_of_read hread
  obtain ⟨-, ⟨left, hleads⟩, hfile⟩ := FileTree.find_eq_ok_iff.1 hfind
  -- the last segment of the path of a file counts
  have hne := Text.splitOn_ne_nil '/' file.chars
  have hlast := hleads.isIdle_getLast (by rw [hfile]; simp) hne
  have hstep : (Text.splitOn '/' file.chars).getLast hne ∈ file.steps :=
    List.mem_filter.2 ⟨List.getLast_mem hne, by simp [hlast]⟩
  intro hroot
  rw [Path.steps_eq_nil_of_components hroot] at hstep
  cases hstep

/-- **The directory of the standards file is absolute** too if a run gets past its configuration. -/
theorem isAbsolute_configDir_of_prepare {prepared : Preparation} (hgit : Git.PrintsAbsolute h)
    (hexecutable : a.scriptPath = none → h.executable.isAbsolute = true)
    (hrun : a.prepare.run.run h = (.ok prepared, h')) :
    prepared.context.IsRooted ∧ prepared.context.configDir.isAbsolute = true := by
  obtain ⟨c, s, hcontext, hrun⟩ := Action.run_bind_eq_ok hrun
  obtain ⟨config, s₁, hload, hrun⟩ := Action.run_bind_eq_ok hrun
  obtain ⟨checkers, s₂, -, hrun⟩ := Action.run_bind_eq_ok hrun
  rw [Action.run_bind_of_ok (Action.run_get s₂)] at hrun
  obtain ⟨diff, s₃, -, hrun⟩ := Action.run_bind_eq_ok hrun
  cases hrun
  obtain ⟨hrooted, hconfig⟩ := isRooted_context hgit hexecutable hcontext
  exact ⟨hrooted, hconfig.2 (components_ne_root_of_load hload)⟩

end CheckArgs

end StandardsGate
