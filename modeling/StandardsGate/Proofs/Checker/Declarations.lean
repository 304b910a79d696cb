import StandardsGate.Proofs.Checker.Builtin
import StandardsGate.Proofs.Run.Composition

/-!
Building is all or nothing.

To see what becomes of a configuration, try to build each checker that it declares, whatever came of
those before it. If all attempts succeed, their checkers are what is built, standard by standard;
otherwise nothing is, and the first attempt that fails says why. A builder may change the state that
the next one finds. If none of them does, the attempts have nothing to do with each other.

Main definitions:

* `Config.declaring`, `Config.declared` — the standards that declare checkers, and these checkers;
* `Registry.attempt` — building a declared checker from the context and its declaration alone;
* `Registry.attempts` — what comes of all attempts, one after the other.

Main results:

* `Registry.run_buildDeclared` — one standard, in terms of the attempts;
* `Registry.gathered_buildStandards`, `Registry.forall₂_declaring` — several standards;
* `Registry.instantiate_exact` — **all or nothing**.
-/

namespace StandardsGate

/-! ### All results, or the first failure -/

section

variable {ε α : Type}

/-- All results are there exactly if none has failed. -/
theorem mapM_id_eq_ok_iff {xs : List (Except ε α)} {as : List α} :
    xs.mapM id = .ok as ↔ xs = as.map .ok := by
  rw [mapM_eq_ok_iff_forall₂, ← List.forall₂_eq_eq_eq, List.forall₂_map_right_iff]
  rfl

/-- A failure is the first one exactly if only results are in front of it. -/
theorem mapM_id_eq_error_iff {xs : List (Except ε α)} {e : ε} :
    xs.mapM id = .error e ↔
      ∃ (front : List α) (back : List (Except ε α)), xs = front.map .ok ++ .error e :: back := by
  induction xs with
  | nil => simp [pure, Except.pure]
  | cons x xs ih =>
      rw [List.mapM_cons]
      constructor
      · intro h
        cases x with
        | error fault =>
            cases h
            exact ⟨[], xs, rfl⟩
        | ok a =>
            cases hlater : xs.mapM id with
            | ok later =>
                rw [hlater] at h
                cases h
            | error fault =>
                rw [hlater] at h
                cases h
                obtain ⟨front, back, hsplit⟩ := ih.1 hlater
                exact ⟨a :: front, back, congrArg (Except.ok a :: ·) hsplit⟩
      · rintro ⟨front, back, hsplit⟩
        cases front with
        | nil =>
            obtain ⟨rfl, -⟩ := List.cons.inj hsplit
            rfl
        | cons a front =>
            obtain ⟨rfl, hlater⟩ := List.cons.inj hsplit
            rw [ih.2 ⟨front, back, hlater⟩]
            rfl

end

/-! ### What is declared -/

namespace Config

/-- The standards that declare checkers. -/
def declaring (config : Config) : List (String × Standard) :=
  config.standards.entries.filter fun e => !e.2.checkers.entries.isEmpty

/-- All checkers that are declared, with their keys, standard by standard. -/
def declared (config : Config) : List (String × CheckerDeclaration) :=
  config.standards.entries.flatMap fun e => e.2.checkers.entries

end Config

namespace Registry

variable {σ : Type} (r : Registry σ) (c : RunContext)

/-- Building a declared checker. Its name comes from its key, its extensions and options from its
own declaration, and everything else from the context. -/
def attempt (d : String × CheckerDeclaration) (s : σ) : Except Error (Checker σ) × σ :=
  (r.build d.2.identity
    { name := displayName d.1
      tools := c.tools
      scriptPath := c.scriptPath
      configDir := c.configDir
      stagingDir := c.stagingDir
      repoRoot := c.repoRoot
      timeout := c.timeout
      extensions := d.2.extensions
      options := d.2.options }).run.run s

/-- What comes of all attempts, one after the other, whatever came of those before. -/
def attempts : List (String × CheckerDeclaration) → σ → List (Except Error (Checker σ))
  | [], _ => []
  | d :: ds, s => (r.attempt c d s).1 :: attempts ds (r.attempt c d s).2

/-- The state behind all attempts. -/
def afterAttempts (ds : List (String × CheckerDeclaration)) (s : σ) : σ :=
  ds.foldl (fun s d => (r.attempt c d s).2) s

theorem attempts_append (ds es : List (String × CheckerDeclaration)) (s : σ) :
    r.attempts c (ds ++ es) s = r.attempts c ds s ++ r.attempts c es (r.afterAttempts c ds s) := by
  induction ds generalizing s with
  | nil => rfl
  | cons d ds ih => exact congrArg ((r.attempt c d s).1 :: ·) (ih _)

/-- Attempts that change nothing have nothing to do with each other. -/
theorem attempts_of_leavesState (hr : ∀ spelling s, (r.build spelling s).LeavesState)
    (ds : List (String × CheckerDeclaration)) (s : σ) :
    r.attempts c ds s = ds.map fun d => (r.attempt c d s).1 := by
  induction ds with
  | nil => rfl
  | cons d ds ih =>
      have hstate : (r.attempt c d s).2 = s := hr _ _ s
      rw [attempts, hstate, ih, List.map_cons]

theorem afterAttempts_of_leavesState (hr : ∀ spelling s, (r.build spelling s).LeavesState)
    (ds : List (String × CheckerDeclaration)) (s : σ) : r.afterAttempts c ds s = s := by
  induction ds with
  | nil => rfl
  | cons d ds ih =>
      have hstate : (r.attempt c d s).2 = s := hr _ _ s
      rw [afterAttempts, List.foldl_cons, hstate]
      exact ih

/-! ### What is built -/

/-- The checkers of one standard are those of its attempts, if all of them succeed. -/
theorem run_buildDeclared (ds : List (String × CheckerDeclaration)) (s : σ) :
    ((r.buildDeclared c ds).run.run s).1 = (r.attempts c ds s).mapM id ∧
      ∀ own s', (r.buildDeclared c ds).run.run s = (.ok own, s') → s' = r.afterAttempts c ds s := by
  induction ds generalizing s with
  | nil =>
      refine ⟨rfl, fun own s' h => ?_⟩
      cases h
      rfl
  | cons d ds ih =>
      rw [attempts, List.mapM_cons]
      rcases hfirst : r.attempt c d s with ⟨e | checker, t⟩
      · have hrun : (r.buildDeclared c (d :: ds)).run.run s = (.error e, t) :=
          Action.run_bind_of_error hfirst _
        rw [hrun]
        exact ⟨rfl, fun own s' h => by cases h⟩
      · obtain ⟨hresult, hstate⟩ := ih t
        have hrun : (r.buildDeclared c (d :: ds)).run.run s =
            (r.buildDeclared c ds >>= fun later => pure (checker :: later)).run.run t :=
          Action.run_bind_of_ok hfirst _
        rcases hlater : (r.buildDeclared c ds).run.run t with ⟨e | later, u⟩
        · rw [hrun, Action.run_bind_of_error hlater, ← hresult, hlater]
          exact ⟨rfl, fun own s' h => by cases h⟩
        · rw [hrun, Action.run_bind_of_ok hlater, ← hresult, hlater]
          refine ⟨rfl, fun own s' h => ?_⟩
          cases h
          have hafter : r.afterAttempts c (d :: ds) s = r.afterAttempts c ds t :=
            congrArg (fun p : Except Error (Checker σ) × σ => r.afterAttempts c ds p.2) hfirst
          rw [hafter]
          exact hstate later u hlater

/-- The checkers of several standards, in a row, are those of all attempts, if they succeed. -/
theorem gathered_buildStandards (es : List (String × Standard)) (s : σ) :
    ((r.buildStandards c es).run.run s).1.map (·.flatMap Prod.snd) =
      (r.attempts c (es.flatMap fun e => e.2.checkers.entries) s).mapM id := by
  induction es generalizing s with
  | nil => rfl
  | cons e es ih =>
      obtain ⟨name, standard⟩ := e
      rw [List.flatMap_cons, attempts_append, List.mapM_append]
      unfold buildStandards
      split
      · rename_i hnone
        rw [hnone, ih]
        simp [attempts, afterAttempts]
      · obtain ⟨hresult, hstate⟩ := r.run_buildDeclared c standard.checkers.entries s
        rw [← hresult]
        rcases hown : (r.buildDeclared c standard.checkers.entries).run.run s with ⟨e | own, t⟩
        · rw [Action.run_bind_of_error hown]
          rfl
        · rw [Action.run_bind_of_ok hown, ← hstate own t hown, ← ih t]
          rcases hlater : (r.buildStandards c es).run.run t with ⟨e | later, u⟩
          · rw [Action.run_bind_of_error hlater]
            rfl
          · rw [Action.run_bind_of_ok hlater]
            rfl

/-- What is built belongs to the standards that declare checkers, and comes from attempts. -/
theorem forall₂_declaring {es : List (String × Standard)} {built : List (String × List (Checker σ))}
    {s s' : σ} (h : (r.buildStandards c es).run.run s = (.ok built, s')) :
    List.Forall₂ (fun e b => b.1 = e.1 ∧ ∃ earlier,
        r.attempts c e.2.checkers.entries (r.afterAttempts c earlier s) = b.2.map .ok)
      (es.filter fun e => !e.2.checkers.entries.isEmpty) built := by
  induction es generalizing s built with
  | nil =>
      cases h
      exact .nil
  | cons e es ih =>
      obtain ⟨name, standard⟩ := e
      unfold buildStandards at h
      split at h
      · rename_i hnone
        rw [List.filter_cons_of_neg (by simp [hnone])]
        exact ih h
      · rename_i hsome
        rw [List.filter_cons_of_pos (by simpa using hsome)]
        obtain ⟨hresult, hstate⟩ := r.run_buildDeclared c standard.checkers.entries s
        obtain ⟨own, t, hown, h⟩ := Action.run_bind_eq_ok h
        obtain ⟨later, u, hlater, h⟩ := Action.run_bind_eq_ok h
        cases h
        rw [hown] at hresult
        refine .cons ⟨rfl, [], mapM_id_eq_ok_iff.1 hresult.symm⟩ ?_
        refine (ih hlater).imp fun e b => ?_
        rintro ⟨hname, earlier, hattempts⟩
        refine ⟨hname, standard.checkers.entries ++ earlier, ?_⟩
        rw [afterAttempts, List.foldl_append]
        rw [hstate own t hown] at hattempts
        exact hattempts

/-- **All or nothing.** The checkers of a configuration are built exactly if all attempts to build
one succeed; otherwise the first attempt that fails, in the order of declaration, says why. What is
built has one entry for each standard that declares checkers, in the order of declaration, with the
checkers of its declarations in their order. If building changes nothing, as is so for the checkers
that there are, then each checker is what comes of its own declaration and the context. -/
theorem instantiate_exact (config : Config) (s : σ) :
    ((∃ built, ((r.instantiate config c).run.run s).1 = .ok built) ↔
      ∀ result ∈ r.attempts c config.declared s, ∃ checker, result = .ok checker) ∧
    (∀ e, ((r.instantiate config c).run.run s).1 = .error e ↔
      ∃ (front : List (Checker σ)) (back : List (Except Error (Checker σ))),
        r.attempts c config.declared s = front.map .ok ++ .error e :: back) ∧
    (∀ built, ((r.instantiate config c).run.run s).1 = .ok built →
      List.Forall₂ (fun e b => b.1 = e.1 ∧ ∃ earlier,
          r.attempts c e.2.checkers.entries (r.afterAttempts c earlier s) = b.2.map .ok)
        config.declaring built ∧
      r.attempts c config.declared s = (built.flatMap Prod.snd).map .ok) ∧
    ((∀ spelling settings, (r.build spelling settings).LeavesState) →
      (r.attempts c config.declared s = config.declared.map fun d => (r.attempt c d s).1) ∧
      ∀ built, ((r.instantiate config c).run.run s).1 = .ok built →
        List.Forall₂ (fun e b => b.1 = e.1 ∧
            (e.2.checkers.entries.map fun d => (r.attempt c d s).1) = b.2.map .ok)
          config.declaring built) := by
  have hgathered := r.gathered_buildStandards c config.standards.entries s
  have hentries : ∀ {built}, ((r.instantiate config c).run.run s).1 = .ok built →
      List.Forall₂ (fun e b => b.1 = e.1 ∧ ∃ earlier,
          r.attempts c e.2.checkers.entries (r.afterAttempts c earlier s) = b.2.map .ok)
        config.declaring built := by
    intro built hbuilt
    rcases hrun : (r.instantiate config c).run.run s with ⟨result, s'⟩
    rw [hrun] at hbuilt
    obtain rfl : result = .ok built := hbuilt
    exact r.forall₂_declaring c hrun
  have hresult : ∀ {built}, ((r.instantiate config c).run.run s).1 = .ok built →
      r.attempts c config.declared s = (built.flatMap Prod.snd).map .ok := by
    intro built hbuilt
    rw [instantiate] at hbuilt
    rw [hbuilt] at hgathered
    exact mapM_id_eq_ok_iff.1 hgathered.symm
  refine ⟨⟨?_, fun hall => ?_⟩, fun e => ?_, fun built hbuilt => ⟨hentries hbuilt, hresult hbuilt⟩,
    fun hr => ⟨attempts_of_leavesState r c hr _ s, fun built hbuilt => ?_⟩⟩
  · rintro ⟨built, hbuilt⟩ result hmem
    rw [hresult hbuilt] at hmem
    obtain ⟨checker, -, rfl⟩ := List.mem_map.1 hmem
    exact ⟨checker, rfl⟩
  · cases hrun : ((r.instantiate config c).run.run s).1 with
    | ok built => exact ⟨built, rfl⟩
    | error e =>
        rw [instantiate] at hrun
        rw [hrun] at hgathered
        obtain ⟨front, back, hsplit⟩ := mapM_id_eq_error_iff.1 hgathered.symm
        obtain ⟨checker, hfailed⟩ := hall (.error e) (by simp [Config.declared, hsplit])
        cases hfailed
  · rw [← mapM_id_eq_error_iff, Config.declared, ← hgathered, instantiate]
    cases ((r.buildStandards c config.standards.entries).run.run s).1 <;> simp [Except.map]
  · refine (hentries hbuilt).imp fun e b => ?_
    rintro ⟨hname, earlier, hattempts⟩
    rw [afterAttempts_of_leavesState r c hr, attempts_of_leavesState r c hr] at hattempts
    exact ⟨hname, hattempts⟩

/-- A standard with one checker, a standard with none, and a standard with two of which neither can
be built. -/
def brokenText : String :=
  "web:\n  checkers:\n    words:\n      checker: pattern\n      options:\n" ++
    "        pattern: debugger\ndocs:\n  files: [d]\napi:\n  checkers:\n    types:\n" ++
    "      checker: mypy\n    words:\n      checker: pattern\n"

def brokenConfig : Config := (Config.ofYaml brokenText).toOption.getD default

theorem brokenConfig_evaluated :
    (Config.ofYaml brokenText).isOk = true ∧
      brokenConfig.declaring.map Prod.fst = ["web", "api"] ∧
      brokenConfig.declared.map (fun d => (d.1, d.2.identity)) =
        [("words", "pattern"), ("types", "mypy"), ("words", "pattern")] ∧
      brokenConfig.declared.map (fun d => (builtin.attempt notingContext d wordsHost).1.isOk) =
        [true, false, false] ∧
      builtin.entries.get? (builtin.canonical "mypy") = none := by
  decide +kernel

/-- The first checker that cannot be built says why nothing is, though another one is built before
it and a third one cannot be built either. -/
theorem instantiate_exact_broken :
    Config.ofYaml brokenText = .ok brokenConfig ∧
      brokenConfig.declaring.map Prod.fst = ["web", "api"] ∧
      brokenConfig.declared.map (fun d => (d.1, d.2.identity)) =
        [("words", "pattern"), ("types", "mypy"), ("words", "pattern")] ∧
      ((builtin.instantiate brokenConfig notingContext).run.run wordsHost).1 =
        .error (.config (.unknownChecker "mypy" (displayName "types")
          (builtin.identities.map Prod.fst))) := by
  obtain ⟨hyaml, hdeclaring, hdeclared, hoks, hunknown⟩ := brokenConfig_evaluated
  have hconfig : Config.ofYaml brokenText = .ok brokenConfig := by
    rw [brokenConfig]
    exact eq_ok_getD hyaml
  refine ⟨hconfig, hdeclaring, hdeclared, ?_⟩
  generalize brokenConfig = config, notingContext = c, wordsHost = h at *
  obtain ⟨-, herror, -, hstateless⟩ := instantiate_exact builtin c config h
  obtain ⟨hattempts, -⟩ := hstateless leavesState_build
  rw [herror, hattempts]
  obtain ⟨d₁, d₂, d₃, hthree⟩ : ∃ d₁ d₂ d₃, config.declared = [d₁, d₂, d₃] := by
    have hlength := congrArg List.length hdeclared
    rw [List.length_map] at hlength
    exact List.length_eq_three.1 hlength
  rw [hthree] at hdeclared hoks ⊢
  obtain ⟨-, ⟨hkey, hidentity⟩, -⟩ : _ ∧ (d₂.1 = "types" ∧ d₂.2.identity = "mypy") ∧ _ := by
    simpa using hdeclared
  obtain ⟨hfirst, -⟩ : (builtin.attempt c d₁ h).1.isOk = true ∧ _ := by
    simpa using hoks
  cases hchecker : (builtin.attempt c d₁ h).1 with
  | error e =>
      rw [hchecker] at hfirst
      cases hfirst
  | ok checker =>
      refine ⟨[checker], [(builtin.attempt c d₃ h).1], ?_⟩
      have hrefused : (builtin.attempt c d₂ h).1 = .error (.config (.unknownChecker "mypy"
          (displayName "types") (builtin.identities.map Prod.fst))) := by
        unfold attempt build resolve
        rw [hidentity, hunknown, hkey]
        rfl
      simp [hchecker, hrefused]

end Registry

end StandardsGate
