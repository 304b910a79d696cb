import StandardsGate.Proofs.Run.Inquiry

/-!
Two runs side by side.

Two runs of the same checkers may record in different ways, and so work with states that differ. If
all that is recorded can be recorded, and the checkers do not see the difference, the runs come to
the same result and print the same lines.

Main definitions:

* `Action.InStep` — work on two states that are alike comes to one result;
* `Running.InStep` — the same for runs, which print the same lines meanwhile.

Main results:

* `inStep_checkDiff` — **two runs come to the same result**, if they begin alike.
-/

namespace StandardsGate

variable {σ σ' α β : Type} {alike : σ → σ' → Prop}

/-- Whether work comes to the same result on states that are alike, and leaves them alike. -/
def Action.InStep (alike : σ → σ' → Prop) (x : Action σ α) (y : Action σ' α) : Prop :=
  ∀ a b, alike a b → (x.run.run a).1 = (y.run.run b).1 ∧ alike (x.run.run a).2 (y.run.run b).2

namespace Running

/-- Whether two runs come to the same result and print the same lines, on states that are alike and
stay so. -/
def InStep (alike : σ → σ' → Prop) (x : Action (Running σ) α) (y : Action (Running σ') α) : Prop :=
  ∀ a b console, alike a b → ∃ result a' b' console', alike a' b' ∧
    x.run.run ⟨a, console⟩ = (result, ⟨a', console'⟩) ∧
    y.run.run ⟨b, console⟩ = (result, ⟨b', console'⟩)

namespace InStep

variable {x : Action (Running σ) α} {y : Action (Running σ') α}

protected theorem pure (a : α) :
    InStep alike (pure a : Action (Running σ) α) (pure a : Action (Running σ') α) :=
  fun _ _ _ h => ⟨_, _, _, _, h, rfl, rfl⟩

protected theorem throw (e : Error) :
    InStep alike (throw e : Action (Running σ) α) (throw e : Action (Running σ') α) :=
  fun _ _ _ h => ⟨_, _, _, _, h, rfl, rfl⟩

theorem print (lines : List ConsoleLine) :
    InStep alike (Running.print lines : Action (Running σ) Unit)
      (Running.print lines : Action (Running σ') Unit) :=
  fun _ _ _ h => ⟨_, _, _, _, h, rfl, rfl⟩

theorem onWorld {x : Action σ α} {y : Action σ' α} (h : Action.InStep alike x y) :
    InStep alike (Running.onWorld x) (Running.onWorld y) := by
  intro a b console hab
  obtain ⟨hresult, hab'⟩ := h a b hab
  refine ⟨_, _, _, console, hab', run_onWorld x _, ?_⟩
  rw [run_onWorld, hresult]

/-- One part after the other. -/
protected theorem bind {f : α → Action (Running σ) β} {g : α → Action (Running σ') β}
    (h : InStep alike x y) (hnext : ∀ a, InStep alike (f a) (g a)) :
    InStep alike (x >>= f) (y >>= g) := by
  intro a b console hab
  obtain ⟨result, a', b', console', hab', hx, hy⟩ := h a b console hab
  rcases result with e | c
  · exact ⟨_, a', b', console', hab', Action.run_bind_of_error hx f, Action.run_bind_of_error hy g⟩
  · rw [Action.run_bind_of_ok hx, Action.run_bind_of_ok hy]
    exact hnext c a' b' console' hab'

/-- The runs may look at their states. -/
theorem afterGet {f : Running σ → Action (Running σ) α} {g : Running σ' → Action (Running σ') α}
    (h : ∀ r r', InStep alike (f r) (g r')) : InStep alike (get >>= f) (get >>= g) := by
  intro a b console hab
  rw [Action.run_bind_of_ok (Action.run_get _), Action.run_bind_of_ok (Action.run_get _)]
  exact h _ _ a b console hab

end InStep

end Running

/-! ### Runs with two recorders -/

section

open Running

variable {σ : Type} {alike : σ → σ → Prop} {rec rec' : Recorder σ}
  (hrec : ∀ r r', Action.InStep alike (rec.record r) (rec'.record r'))
include hrec

theorem inStep_runChecker (standard : String) (files : List EditedFile) {c : Checker σ}
    (hc : Action.InStep alike (c.checkFiles files) (c.checkFiles files)) :
    Running.InStep alike (runChecker rec standard files c) (runChecker rec' standard files c) := by
  unfold runChecker
  refine .afterGet fun r r' => .bind (.onWorld hc) fun messages => ?_
  refine .afterGet fun r r' => .bind (.onWorld (hrec _ _)) fun _ => ?_
  split
  · exact .pure _
  · exact .bind (.print _) fun _ => .pure _

theorem inStep_runCheckers (standard : String) (files : List EditedFile) {cs : List (Checker σ)}
    (hcs : ∀ c ∈ cs, Action.InStep alike (c.checkFiles files) (c.checkFiles files)) :
    Running.InStep alike (runCheckers rec standard files cs)
      (runCheckers rec' standard files cs) := by
  induction cs with
  | nil => exact .pure _
  | cons c cs ih =>
      obtain ⟨hc, hcs⟩ := List.forall_mem_cons.1 hcs
      exact .bind (inStep_runChecker hrec standard files hc) fun found =>
        .bind (ih hcs) fun later => .pure _

theorem inStep_runGroups (several : Bool) {built : List (String × List (Checker σ))}
    {gs : List Group} (hqs : ∀ q ∈ (gs.filterMap (Group.task? built)).flatMap Task.questions,
      Action.InStep alike (q.checker.checkFiles q.files) (q.checker.checkFiles q.files)) :
    Running.InStep alike (runGroups rec several built gs) (runGroups rec' several built gs) := by
  induction gs with
  | nil => exact .pure _
  | cons g gs ih =>
      unfold runGroups
      cases hown : (built.lookup g.standard).getD [] with
      | nil =>
          have htask : g.task? built = none := by simp [Group.task?, hown]
          rw [List.filterMap_cons_none htask] at hqs
          exact ih hqs
      | cons c cs =>
          have htask : g.task? built = some ⟨g.standard, g.files, c :: cs⟩ := by
            simp [Group.task?, hown]
          rw [List.filterMap_cons_some htask, List.flatMap_cons, List.forall_mem_append] at hqs
          obtain ⟨hown, hlater⟩ := hqs
          have hcheckers := inStep_runCheckers hrec g.standard g.files
            fun k hk => hown ⟨g.standard, g.files, k⟩ (List.mem_map_of_mem hk)
          have hrest := hcheckers.bind fun found =>
            (ih hlater).bind fun later => .pure (g.standard :: later.1, found ++ later.2)
          cases several with
          | true => exact .bind (.print _) fun _ => hrest
          | false => exact hrest

/-- **Two runs come to the same result** and print the same lines, if they begin alike. -/
theorem inStep_checkDiff (config : Config) (built : List (String × List (Checker σ))) (d : Diff)
    (hqs : ∀ q ∈ config.questions built d.files.toList,
      Action.InStep alike (q.checker.checkFiles q.files) (q.checker.checkFiles q.files))
    {a b a' b' : σ} (hab : alike a' b')
    (ha : (rec.record (startRecord config d)).run.run a = (.ok (), a'))
    (hb : (rec'.record (startRecord config d)).run.run b = (.ok (), b'))
    (console : List ConsoleLine) :
    ∃ result w w' console', alike w w' ∧
      (checkDiff rec config built d).run.run ⟨a, console⟩ = (result, ⟨w, console'⟩) ∧
      (checkDiff rec' config built d).run.run ⟨b, console⟩ = (result, ⟨w', console'⟩) := by
  have hstart : ∀ {rec : Recorder σ} {a a' : σ},
      (rec.record (startRecord config d)).run.run a = (.ok (), a') →
      (onWorld (rec.record (startRecord config d))).run.run ⟨a, console⟩ =
        (.ok (), ⟨a', console⟩) := by
    intro rec a a' h
    rw [run_onWorld, h]
  unfold checkDiff
  rw [Action.run_bind_of_ok (hstart ha), Action.run_bind_of_ok (hstart hb)]
  have hmalformed : ∀ ms : List MalformedHunk, Running.InStep alike
      (ms.forM fun m => onWorld (rec.record (malformedRecord m)))
      (ms.forM fun m => onWorld (rec'.record (malformedRecord m))) := by
    intro ms
    induction ms with
    | nil => exact .pure ()
    | cons m ms ih => exact .bind (.onWorld (hrec _ _)) fun _ => ih
  refine Running.InStep.bind (.print _) (fun _ => .bind (hmalformed _) fun _ => ?_) a' b' console hab
  cases hrules : Assignment.ofConfig config with
  | error cause =>
      dsimp only
      cases d.isClean with
      | true => exact .throw _
      | false => exact .bind (.print _) fun _ => .throw _
  | ok a =>
      rw [Config.questions, ← Config.filterMap_groups (Assignment.compiled_of_ofConfig hrules).2] at hqs
      have hgroups := (inStep_runGroups hrec config.hasSeveral hqs).bind fun found =>
        let summary : RunSummary := ⟨d.files.size, found.1, found.2, d.malformed.length⟩
        .bind (.print (finishLines (summary.verdict = .accepted))) fun _ =>
          .bind (.onWorld (hrec (finishRecord summary) (finishRecord summary))) fun _ =>
            .pure summary
      cases d.isClean with
      | true => exact hgroups
      | false => exact .bind (.print _) fun _ => hgroups

end

end StandardsGate
