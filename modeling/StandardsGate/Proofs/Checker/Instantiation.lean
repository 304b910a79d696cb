import StandardsGate.Checker.Registry
import StandardsGate.Proofs.Host.Action
import StandardsGate.Proofs.OrderedMap
import Mathlib.Data.List.Forall2

/-!
Which checkers a standard gets.

If the checkers of a configuration are built at all, each standard has one checker for each of its
declarations, in the order of declaration, and no declaration is left out.

Main definitions:

* `Registry.Builds` — whether a checker comes from a declaration.

Main results:

* `Registry.forall₂_buildDeclared` — the checkers of one standard;
* `Registry.forall₂_instantiate` — **the checkers of every standard**.
-/

namespace StandardsGate.Registry

variable {σ : Type} {r : Registry σ} {c : RunContext}

/-- Whether a checker comes from a declaration: it was built from the declared implementation, with
the declared settings, in some state. -/
def Builds (r : Registry σ) (c : RunContext) (declared : String × CheckerDeclaration)
    (checker : Checker σ) : Prop :=
  ∃ s s', (r.build declared.2.identity (declaredSettings c declared.1 declared.2)).run.run s =
    (.ok checker, s')

/-- Each declaration of a standard has its checker. -/
theorem forall₂_buildDeclared {ds : List (String × CheckerDeclaration)}
    {checkers : List (Checker σ)} {s s' : σ}
    (h : (r.buildDeclared c ds).run.run s = (.ok checkers, s')) :
    List.Forall₂ (r.Builds c) ds checkers := by
  induction ds generalizing checkers s s' with
  | nil =>
      obtain rfl : [] = checkers := Except.ok.inj (Prod.mk.inj h).1
      exact .nil
  | cons d ds ih =>
      obtain ⟨checker, s₁, hbuild, h⟩ := Action.run_bind_eq_ok h
      obtain ⟨later, s₂, hlater, h⟩ := Action.run_bind_eq_ok h
      obtain rfl : checker :: later = checkers := Except.ok.inj (Prod.mk.inj h).1
      exact .cons ⟨s, s₁, hbuild⟩ (ih hlater)

/-- What is built for standards belongs to them, and each of them has its checkers. -/
theorem forall₂_buildStandards {es : List (String × Standard)}
    {built : List (String × List (Checker σ))} {s s' : σ} (hdistinct : (es.map Prod.fst).Nodup)
    (h : (r.buildStandards c es).run.run s = (.ok built, s')) :
    (∀ b ∈ built, b.1 ∈ es.map Prod.fst) ∧
      ∀ e ∈ es, List.Forall₂ (r.Builds c) e.2.checkers.entries ((built.lookup e.1).getD []) := by
  induction es generalizing built s s' with
  | nil =>
      obtain rfl : [] = built := Except.ok.inj (Prod.mk.inj h).1
      simp
  | cons e es ih =>
      obtain ⟨name, standard⟩ := e
      obtain ⟨hname, hes⟩ := List.nodup_cons.1 hdistinct
      -- what is built for the later standards does not hide what is built for this one
      have hnone : ∀ {later : List (String × List (Checker σ))},
          (∀ b ∈ later, b.1 ∈ es.map Prod.fst) → later.lookup name = none := by
        intro later hlater
        refine OrderedMap.lookup_eq_none_of_not_mem fun hmem => hname ?_
        obtain ⟨b, hb, rfl⟩ := List.mem_map.1 hmem
        exact hlater b hb
      unfold buildStandards at h
      split at h
      · rename_i hdeclared
        obtain ⟨hkeys, hall⟩ := ih hes h
        refine ⟨fun b hb => List.mem_cons_of_mem _ (hkeys b hb), ?_⟩
        rw [List.forall_mem_cons]
        refine ⟨?_, hall⟩
        rw [hdeclared, hnone hkeys]
        exact .nil
      · obtain ⟨own, s₁, hown, h⟩ := Action.run_bind_eq_ok h
        obtain ⟨later, s₂, hlater, h⟩ := Action.run_bind_eq_ok h
        obtain rfl : (name, own) :: later = built := Except.ok.inj (Prod.mk.inj h).1
        obtain ⟨hkeys, hall⟩ := ih hes hlater
        refine ⟨?_, ?_⟩
        · rw [List.forall_mem_cons]
          exact ⟨List.mem_cons_self .., fun b hb => List.mem_cons_of_mem _ (hkeys b hb)⟩
        · rw [List.forall_mem_cons]
          refine ⟨?_, fun e he => ?_⟩
          · rw [List.lookup_cons_self]
            exact forall₂_buildDeclared hown
          · have hne : (e.1 == name) = false := by
              have : e.1 ≠ name := by
                rintro rfl
                exact hname (List.mem_map.2 ⟨e, he, rfl⟩)
              simpa using this
            rw [List.lookup_cons, hne]
            exact hall e he

/-- **Each standard has its checkers**, one for each of its declarations. -/
theorem forall₂_instantiate {config : Config} {built : List (String × List (Checker σ))}
    {s s' : σ} (h : (r.instantiate config c).run.run s = (.ok built, s')) :
    ∀ e ∈ config.standards.entries,
      List.Forall₂ (r.Builds c) e.2.checkers.entries ((built.lookup e.1).getD []) :=
  (forall₂_buildStandards config.standards.distinct h).2

end StandardsGate.Registry
