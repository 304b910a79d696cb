import StandardsGate.Proofs.Host.Action
import StandardsGate.Run.Check

/-!
Runs that follow other work.

Besides what it does with the state of its checkers, a run prints lines. It is compared with work
on that state alone: it has to do the same, to fail where that fails, and to have printed what the
answers of that work ask for.

Main definitions:

* `Running.Follows` — whether a run gets the answers of other work, and prints what it has to.

Main results:

* `Running.Follows.bind` — **runs are followed part by part**;
* `Running.Follows.afterPrint` — what is printed stands behind what was printed before.
-/

namespace StandardsGate

variable {σ α β γ δ : Type}

namespace Running

theorem onWorld_pure (a : α) : onWorld (pure a : Action σ α) = pure a := rfl

/-- Whether a run that begins with some printed lines gets the answers of other work and leaves
what that leaves, with a result and with printed lines that depend on the answers only. Where the
work fails, the run fails with the same error. -/
def Follows (before : List ConsoleLine) (run : Action (Running σ) β) (work : Action σ α)
    (result : α → β) (shown : α → List ConsoleLine) : Prop :=
  ∀ w, match work.run.run w with
    | (.ok a, w') => run.run.run ⟨w, before⟩ = (.ok (result a), ⟨w', shown a⟩)
    | (.error e, w') => ∃ console, run.run.run ⟨w, before⟩ = (.error e, ⟨w', console⟩)

namespace Follows

variable {before : List ConsoleLine} {run : Action (Running σ) β} {work : Action σ α}
  {result : α → β} {shown : α → List ConsoleLine}

protected theorem pure {a : α} {b : β} (hresult : result a = b) (hshown : shown a = before) :
    Follows before (pure b : Action (Running σ) β) (pure a) result shown := by
  intro w
  subst hresult hshown
  rfl

theorem ofOnWorld (before : List ConsoleLine) (work : Action σ α) :
    Follows before (onWorld work) work id fun _ => before := by
  intro w
  have hrun : (onWorld work).run.run ⟨w, before⟩ =
      ((work.run.run w).1, ⟨(work.run.run w).2, before⟩) := rfl
  rw [hrun]
  rcases work.run.run w with ⟨_ | a, w'⟩
  · exact ⟨before, rfl⟩
  · rfl

/-- **Runs are followed part by part.** -/
protected theorem bind {next : β → Action (Running σ) δ} {more : α → Action σ γ}
    {result' : γ → δ} {shown' : γ → List ConsoleLine} (h : Follows before run work result shown)
    (hnext : ∀ a, Follows (shown a) (next (result a)) (more a) result' shown') :
    Follows before (run >>= next) (work >>= more) result' shown' := by
  intro w
  have hw := h w
  rw [Action.run_bind]
  rcases hwork : work.run.run w with ⟨_ | a, w'⟩
  · rw [hwork] at hw
    obtain ⟨console, hrun⟩ := hw
    exact ⟨console, Action.run_bind_of_error hrun next⟩
  · rw [hwork] at hw
    rw [Action.run_bind_of_ok hw]
    exact hnext a w'

/-- A run may look at its state. -/
theorem afterGet {next : Running σ → Action (Running σ) β}
    (h : ∀ r, Follows before (next r) work result shown) :
    Follows before (get >>= next) work result shown := by
  intro w
  rw [Action.run_bind_of_ok (Action.run_get _)]
  exact h ⟨w, before⟩ w

/-- What a run prints stands behind what was printed before. -/
theorem afterPrint {lines : List ConsoleLine} {next : Unit → Action (Running σ) β}
    (h : Follows (before ++ lines) (next ()) work result shown) :
    Follows before (print lines >>= next) work result shown := by
  intro w
  have hprint : (print lines : Action (Running σ) Unit).run.run ⟨w, before⟩ =
      (.ok (), ⟨w, before ++ lines⟩) := rfl
  rw [Action.run_bind_of_ok hprint]
  exact h w

end Follows

end Running

end StandardsGate
