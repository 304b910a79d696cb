import StandardsGate.Checker.Builtin
import StandardsGate.Proofs.Checker.Instantiation

/-!
What the registry builds.

There are two kinds of checkers, and what is built says which of them it is and what was read from
the options. Nothing is changed on the host meanwhile, whether it succeeds or not.

Main definitions:

* `Action.LeavesState` — work that leaves the state as it is;
* `Linting.checkerOf` — the checker that runs a linter, from what its options say;
* `Builtin` — what is built from settings on a host.

Main results:

* `Registry.builtin_of_build` — **what is built is one of the two kinds**;
* `Registry.builtin_of_mem` — the same of each checker of a configuration.
-/

namespace StandardsGate

/-! ### Work that leaves the state as it is -/

namespace Action

variable {σ α β : Type}

/-- Whether work leaves the state as it is. -/
def LeavesState (a : Action σ α) : Prop := ∀ s, (a.run.run s).2 = s

namespace LeavesState

theorem eq_of_run {a : Action σ α} (ha : LeavesState a) {s s' : σ} {result : Except Error α}
    (h : a.run.run s = (result, s')) : s' = s :=
  (congrArg Prod.snd h).symm.trans (ha s)

protected theorem pure (a : α) : LeavesState (pure a : Action σ α) := fun _ => rfl

protected theorem throw (e : Error) : LeavesState (throw e : Action σ α) := fun _ => rfl

protected theorem get : LeavesState (get : Action σ σ) := fun _ => rfl

protected theorem bind {x : Action σ α} {f : α → Action σ β} (hx : LeavesState x)
    (hf : ∀ a, LeavesState (f a)) : LeavesState (x >>= f) := by
  intro s
  rcases hrun : x.run.run s with ⟨e | a, s'⟩
  · rw [run_bind_of_error hrun]
    exact hx.eq_of_run hrun
  · obtain rfl := hx.eq_of_run hrun
    rw [run_bind_of_ok hrun]
    exact hf a s'

end LeavesState

end Action

/-! ### The two kinds of checkers -/

namespace Linting

/-- The checker that runs a linter, from what its options say. -/
def checkerOf (s : Settings) (command : LintCommand) (config : Path) (policy : FaultPolicy) :
    Checker Host where
  settings := s
  defaultExtensions := extensions
  inspect := inspect ⟨Git.stagedContent s.repoRoot, command.run, command.describe⟩ policy s config

end Linting

/-- What is built from settings on a host. -/
inductive Builtin (h : Host) (s : Settings) : Checker Host → Prop
  /-- The checker for forbidden words, with the pattern of its options. -/
  | words {pattern : Regex} (hpattern : ForbiddenWords.patternOf s = .ok pattern) :
      Builtin h s (ForbiddenWords.checker Host s pattern)
  /-- The checker that runs a linter, whose configuration was there. -/
  | linter {command : LintCommand} {config : Path} {policy : FaultPolicy}
      (hcommand : Linting.commandOf s = .ok command)
      (hoptions : Linting.readOptions h s = .ok (config, policy)) :
      Builtin h s (Linting.checkerOf s command config policy)

namespace Registry

/-- Which builder an identity or another spelling stands for. -/
theorem build_builtin (spelling : String) (s : Settings) :
    builtin.build spelling s =
      if builtin.canonical spelling = "eslint" then Linting.buildWithGit s
      else if builtin.canonical spelling = "forbidden_words" then
        match ForbiddenWords.build Host s with
        | .ok c => return c
        | .error e => throw (.config e)
      else throw (.config (.unknownChecker spelling s.name (builtin.identities.map (·.1)))) := by
  have hget : ∀ identity, builtin.entries.get? identity =
      if identity = "eslint" then some ⟨Linting.extensions, Linting.buildWithGit⟩
      else if identity = "forbidden_words" then
        some ⟨ForbiddenWords.extensions, fun s =>
          match ForbiddenWords.build Host s with
          | .ok c => return c
          | .error e => throw (.config e)⟩
      else none := by
    intro identity
    have hentries : builtin.entries = (SortedMap.insert ∅ "forbidden_words" _).insert "eslint" _ :=
      rfl
    rw [hentries, SortedMap.get?_insert, SortedMap.get?_insert]
    rfl
  unfold build resolve
  rw [hget]
  split_ifs <;> rfl

theorem leavesState_buildWithGit (s : Settings) : (Linting.buildWithGit s).LeavesState := by
  unfold Linting.buildWithGit
  split
  · exact .throw _
  · unfold Linting.build
    refine .bind .get fun h => ?_
    split
    · exact .throw _
    · exact .pure _

/-- Building a checker changes nothing on the host. -/
theorem leavesState_build (spelling : String) (s : Settings) :
    (builtin.build spelling s).LeavesState := by
  rw [build_builtin]
  split_ifs
  · exact leavesState_buildWithGit s
  · split
    · exact .pure _
    · exact .throw _
  · exact .throw _

/-- **What is built is one of the two kinds.** -/
theorem builtin_of_build {spelling : String} {s : Settings} {h h' : Host} {checker : Checker Host}
    (hbuild : (builtin.build spelling s).run.run h = (.ok checker, h')) : Builtin h s checker := by
  rw [build_builtin] at hbuild
  split_ifs at hbuild
  · unfold Linting.buildWithGit at hbuild
    split at hbuild
    · cases hbuild
    · rename_i command hcommand
      unfold Linting.build at hbuild
      rw [Action.run_bind_of_ok (Action.run_get h)] at hbuild
      split at hbuild
      · cases hbuild
      · rename_i config policy hoptions
        cases hbuild
        exact .linter hcommand hoptions
  · split at hbuild
    · rename_i c hwords
      cases hbuild
      obtain ⟨pattern, hpattern, hchecker⟩ := exists_of_bind_eq_ok hwords
      cases hchecker
      exact .words hpattern
    · cases hbuild
  · cases hbuild

/-! ### The checkers of a configuration -/

section

variable {σ : Type} {r : Registry σ} (hr : ∀ spelling s, (r.build spelling s).LeavesState)
  {c : RunContext} {s s' : σ}
include hr

theorem leavesState_buildDeclared (ds : List (String × CheckerDeclaration)) :
    (r.buildDeclared c ds).LeavesState := by
  induction ds with
  | nil => exact .pure _
  | cons d ds ih => exact .bind (hr _ _) fun checker => .bind ih fun later => .pure _

theorem leavesState_buildStandards (es : List (String × Standard)) :
    (r.buildStandards c es).LeavesState := by
  induction es with
  | nil => exact .pure _
  | cons e es ih =>
      unfold buildStandards
      split
      · exact ih
      · exact .bind (leavesState_buildDeclared hr _) fun own => .bind ih fun later => .pure _

/-- Each checker that is built for a standard comes from one of its declarations. -/
theorem exists_declared_of_mem {ds : List (String × CheckerDeclaration)} {own : List (Checker σ)}
    (h : (r.buildDeclared c ds).run.run s = (.ok own, s')) {checker : Checker σ}
    (hchecker : checker ∈ own) :
    ∃ d ∈ ds, (r.build d.2.identity (declaredSettings c d.1 d.2)).run.run s = (.ok checker, s) := by
  induction ds generalizing own s' with
  | nil =>
      cases h
      cases hchecker
  | cons d ds ih =>
      obtain ⟨first, s₁, hfirst, hrest⟩ := Action.run_bind_eq_ok h
      obtain rfl := (hr _ _).eq_of_run hfirst
      obtain ⟨later, s₂, hlater, hend⟩ := Action.run_bind_eq_ok hrest
      cases hend
      rcases List.mem_cons.1 hchecker with rfl | hchecker
      · exact ⟨d, List.mem_cons_self, hfirst⟩
      · obtain ⟨d', hd', hbuild⟩ := ih hlater hchecker
        exact ⟨d', List.mem_cons_of_mem _ hd', hbuild⟩

/-- Each checker that is built comes from a declaration of a standard. -/
theorem exists_standard_of_mem {es : List (String × Standard)}
    {built : List (String × List (Checker σ))}
    (h : (r.buildStandards c es).run.run s = (.ok built, s')) {b : String × List (Checker σ)}
    (hb : b ∈ built) {checker : Checker σ} (hchecker : checker ∈ b.2) :
    ∃ e ∈ es, ∃ d ∈ e.2.checkers.entries,
      (r.build d.2.identity (declaredSettings c d.1 d.2)).run.run s = (.ok checker, s) := by
  induction es generalizing built s' with
  | nil =>
      cases h
      cases hb
  | cons e es ih =>
      obtain ⟨name, standard⟩ := e
      unfold buildStandards at h
      split at h
      · obtain ⟨e', he', hd⟩ := ih h hb
        exact ⟨e', List.mem_cons_of_mem _ he', hd⟩
      · obtain ⟨own, s₁, hown, hrest⟩ := Action.run_bind_eq_ok h
        obtain rfl := (leavesState_buildDeclared hr _).eq_of_run hown
        obtain ⟨later, s₂, hlater, hend⟩ := Action.run_bind_eq_ok hrest
        cases hend
        rcases List.mem_cons.1 hb with rfl | hb
        · obtain ⟨d, hd, hbuild⟩ := exists_declared_of_mem hr hown hchecker
          exact ⟨_, List.mem_cons_self, d, hd, hbuild⟩
        · obtain ⟨e', he', hd⟩ := ih hlater hb
          exact ⟨e', List.mem_cons_of_mem _ he', hd⟩

end

/-- Building the checkers of a configuration changes nothing on the host. -/
theorem leavesState_instantiate (config : Config) (c : RunContext) :
    (builtin.instantiate config c).LeavesState :=
  leavesState_buildStandards leavesState_build config.standards.entries

/-- **Each checker of a configuration is one of the two kinds**, with the settings of a
declaration. -/
theorem builtin_of_mem {config : Config} {c : RunContext} {h h' : Host}
    {built : List (String × List (Checker Host))}
    (hbuilt : (builtin.instantiate config c).run.run h = (.ok built, h')) {standard : String}
    {checker : Checker Host} (hchecker : checker ∈ (built.lookup standard).getD []) :
    ∃ e ∈ config.standards.entries, ∃ d ∈ e.2.checkers.entries,
      Builtin h (declaredSettings c d.1 d.2) checker := by
  cases hlookup : built.lookup standard with
  | none =>
      rw [hlookup] at hchecker
      cases hchecker
  | some own =>
      rw [hlookup] at hchecker
      obtain ⟨front, back, hsplit, -⟩ := List.lookup_eq_some_iff.1 hlookup
      have hmem : (standard, own) ∈ built := by simp [hsplit]
      obtain ⟨e, he, d, hd, hbuild⟩ :=
        exists_standard_of_mem leavesState_build hbuilt hmem hchecker
      exact ⟨e, he, d, hd, builtin_of_build hbuild⟩

end Registry

end StandardsGate
