import StandardsGate.Host.Host
import Mathlib.Data.List.Forall2

/-!
What comes of work that may fail.

Such work is followed through its parts: the second part starts where the first one has left the
state, unless the first one has failed.

Main results:

* `bind_eq_ok_iff`, `mapM_eq_ok_iff_forall₂` — **work that succeeds does so in all its parts**;
* `Action.run_bind` — **one part after the other**;
* `Action.run_mapM_eq_error` — work for each element of a list fails at one of them.
-/

namespace StandardsGate

/-! ### Results -/

section Except

variable {ε α β : Type}

/-- If two parts have a result, the first one has one, and the second one goes on from it. -/
theorem exists_of_bind_eq_ok {x : Except ε α} {f : α → Except ε β} {b : β}
    (h : (x >>= f) = .ok b) : ∃ a, x = .ok a ∧ f a = .ok b := by
  cases x with
  | error fault => cases h
  | ok a => exact ⟨a, rfl, h⟩

theorem bind_eq_ok_iff {x : Except ε α} {f : α → Except ε β} {b : β} :
    (x >>= f) = .ok b ↔ ∃ a, x = .ok a ∧ f a = .ok b := by
  refine ⟨exists_of_bind_eq_ok, ?_⟩
  rintro ⟨a, rfl, hb⟩
  exact hb

theorem map_eq_ok_iff {x : Except ε α} {f : α → β} {b : β} :
    x.map f = .ok b ↔ ∃ a, x = .ok a ∧ f a = b := by
  cases x <;> simp [Except.map]

theorem mapError_eq_ok_iff {δ : Type} {x : Except ε α} {f : ε → δ} {a : α} :
    x.mapError f = .ok a ↔ x = .ok a := by
  cases x <;> simp [Except.mapError]

/-- A whole list has results exactly if each element has its own. -/
theorem mapM_eq_ok_iff_forall₂ {f : α → Except ε β} {as : List α} {bs : List β} :
    as.mapM f = .ok bs ↔ List.Forall₂ (fun a b => f a = .ok b) as bs := by
  induction as generalizing bs with
  | nil => cases bs <;> simp [pure, Except.pure]
  | cons a as ih =>
      rw [List.mapM_cons, bind_eq_ok_iff, List.forall₂_cons_left_iff]
      simp only [bind_eq_ok_iff, ih]
      constructor
      · rintro ⟨b, ha, bs, has, h⟩
        cases h
        exact ⟨b, bs, ha, has, rfl⟩
      · rintro ⟨b, bs, ha, has, rfl⟩
        exact ⟨b, ha, bs, has, rfl⟩

/-- If all of a list is found in order, each element is. -/
theorem eq_ok_of_forM_eq_ok {f : α → Except ε Unit} {as : List α}
    (h : as.forM f = .ok ()) : ∀ a ∈ as, f a = .ok () := by
  induction as with
  | nil => simp
  | cons a as ih =>
      obtain ⟨⟨⟩, ha, has⟩ := exists_of_bind_eq_ok h
      rw [List.forall_mem_cons]
      exact ⟨ha, ih has⟩

/-- A result that is there can be taken out. -/
theorem eq_ok_getD [Inhabited α] {x : Except ε α} (h : x.isOk = true) :
    x = .ok (x.toOption.getD default) := by
  cases x with
  | error fault => cases h
  | ok a => rfl

theorem eq_ok_of_toOption {x : Except ε α} {a : α} (h : x.toOption = some a) : x = .ok a := by
  cases x with
  | error fault => cases h
  | ok b => exact congrArg Except.ok (Option.some.inj h)

theorem pair_eq_ok_getD [Inhabited α] {p : Except ε α × β} (h : p.1.isOk = true) :
    p = (.ok (p.1.toOption.getD default), p.2) := by
  obtain ⟨result, b⟩ := p
  exact congrArg (·, b) (eq_ok_getD h)

theorem exists_pair_of_toOption {p : Except ε α × β} {a : α} (h : p.1.toOption = some a) :
    ∃ b, p = (.ok a, b) := by
  obtain ⟨result, b⟩ := p
  exact ⟨b, congrArg (·, b) (eq_ok_of_toOption h)⟩

end Except

/-! ### Work with a state -/

namespace Action

variable {σ α β : Type}

theorem run_get (s : σ) : (get : Action σ σ).run.run s = (.ok s, s) := rfl

/-- **One part after the other.** -/
theorem run_bind (x : Action σ α) (f : α → Action σ β) (s : σ) :
    (x >>= f).run.run s =
      match x.run.run s with
      | (.ok a, s) => (f a).run.run s
      | (.error e, s) => (.error e, s) := by
  rw [ExceptT.run_bind, StateT.run_bind]
  rcases x.run.run s with ⟨result, s'⟩
  cases result <;> rfl

theorem run_map (f : α → β) (x : Action σ α) (s : σ) :
    (f <$> x).run.run s = ((x.run.run s).1.map f, (x.run.run s).2) := by
  rw [map_eq_pure_bind, run_bind]
  rcases x.run.run s with ⟨_ | a, s'⟩ <;> rfl

theorem run_bind_of_ok {x : Action σ α} {s s' : σ} {a : α} (h : x.run.run s = (.ok a, s'))
    (f : α → Action σ β) : (x >>= f).run.run s = (f a).run.run s' := by
  rw [run_bind, h]

theorem run_bind_of_error {x : Action σ α} {s s' : σ} {e : Error}
    (h : x.run.run s = (.error e, s')) (f : α → Action σ β) :
    (x >>= f).run.run s = (.error e, s') := by
  rw [run_bind, h]

/-- If two parts have a result, the first one has one too. -/
theorem run_bind_eq_ok {x : Action σ α} {f : α → Action σ β} {s s' : σ} {b : β}
    (h : (x >>= f).run.run s = (.ok b, s')) :
    ∃ a s'', x.run.run s = (.ok a, s'') ∧ (f a).run.run s'' = (.ok b, s') := by
  rw [run_bind] at h
  split at h
  · rename_i a s'' hx
    exact ⟨a, s'', hx, h⟩
  · cases h

/-- If two parts fail, the first one does, or it has a result and the second one fails. -/
theorem run_bind_eq_error {x : Action σ α} {f : α → Action σ β} {s s' : σ} {e : Error}
    (h : (x >>= f).run.run s = (.error e, s')) :
    x.run.run s = (.error e, s') ∨
      ∃ a s'', x.run.run s = (.ok a, s'') ∧ (f a).run.run s'' = (.error e, s') := by
  rw [run_bind] at h
  split at h
  · rename_i a s'' hx
    exact .inr ⟨a, s'', hx, h⟩
  · rename_i e' s'' hx
    cases h
    exact .inl hx

/-- Work for a list goes on behind its first element. -/
theorem run_mapM_cons {f : α → Action σ β} {a : α} {b : β} {as : List α} {s t u : σ}
    {result : Except Error (List β)} (ha : (f a).run.run s = (.ok b, t))
    (has : (as.mapM f).run.run t = (result, u)) :
    ((a :: as).mapM f).run.run s = (result.map (b :: ·), u) := by
  rw [List.mapM_cons, run_bind_of_ok ha, ← map_eq_pure_bind, run_map, has]

/-- If work for each element fails, it does so at one of them, and has results for those before. -/
theorem run_mapM_eq_error {f : α → Action σ β} {as : List α} {s s' : σ} {e : Error}
    (h : (as.mapM f).run.run s = (.error e, s')) :
    ∃ front a back bs t, as = front ++ a :: back ∧ (front.mapM f).run.run s = (.ok bs, t) ∧
      (f a).run.run t = (.error e, s') := by
  induction as generalizing s with
  | nil => cases h
  | cons a as ih =>
      rw [List.mapM_cons] at h
      rcases run_bind_eq_error h with ha | ⟨b, t, ha, h⟩
      · exact ⟨[], a, as, [], s, rfl, rfl, ha⟩
      rcases run_bind_eq_error h with has | ⟨bs, t', -, h⟩
      · obtain ⟨front, a', back, bs, t', rfl, hfront, ha'⟩ := ih has
        exact ⟨a :: front, a', back, b :: bs, t', rfl, run_mapM_cons ha hfront, ha'⟩
      · cases h

/-- If work for each element succeeds, it has a result for each. -/
theorem forall₂_of_mapM_eq_ok {f : α → Action σ β} {as : List α} {bs : List β} {s s' : σ}
    (h : (as.mapM f).run.run s = (.ok bs, s')) :
    List.Forall₂ (fun a b => ∃ t t', (f a).run.run t = (.ok b, t')) as bs := by
  induction as generalizing bs s s' with
  | nil =>
      obtain rfl : [] = bs := Except.ok.inj (Prod.mk.inj h).1
      exact .nil
  | cons a as ih =>
      rw [List.mapM_cons] at h
      obtain ⟨b, s₁, ha, h⟩ := run_bind_eq_ok h
      obtain ⟨later, s₂, has, h⟩ := run_bind_eq_ok h
      obtain rfl : b :: later = bs := Except.ok.inj (Prod.mk.inj h).1
      exact .cons ⟨s, s₁, ha⟩ (ih has)

theorem exists_of_mem_mapM {f : α → Action σ β} {as : List α} {bs : List β} {s s' : σ}
    (h : (as.mapM f).run.run s = (.ok bs, s')) {b : β} (hb : b ∈ bs) :
    ∃ a ∈ as, ∃ t t', (f a).run.run t = (.ok b, t') := by
  have hall := forall₂_of_mapM_eq_ok h
  clear h
  induction hall with
  | nil => cases hb
  | cons ha _ ih =>
      rcases List.mem_cons.1 hb with rfl | hb
      · exact ⟨_, List.mem_cons_self, ha⟩
      · obtain ⟨a, has, hrun⟩ := ih hb
        exact ⟨a, List.mem_cons_of_mem _ has, hrun⟩

end Action

/-- What succeeds on the host is work that succeeds. -/
theorem run_onHost_of_ok {ε α : Type} (mkError : ε → Error) {f : Host → Except ε α × Host}
    {h h' : Host} {a : α} (hf : f h = (.ok a, h')) :
    (onHost mkError f).run.run h = (.ok a, h') := by
  unfold onHost
  simp only [ExceptT.run, StateT.run, hf]

/-- What fails on the host is work that fails. -/
theorem run_onHost_of_error {ε α : Type} (mkError : ε → Error) {f : Host → Except ε α × Host}
    {h h' : Host} {e : ε} (hf : f h = (.error e, h')) :
    (onHost mkError f).run.run h = (.error (mkError e), h') := by
  unfold onHost
  simp only [ExceptT.run, StateT.run, hf]

theorem eq_ok_of_run_onHost {ε α : Type} {mkError : ε → Error} {f : Host → Except ε α × Host}
    {h h' : Host} {a : α} (hrun : (onHost mkError f).run.run h = (.ok a, h')) : f h = (.ok a, h') := by
  rcases hf : f h with ⟨e | b, t⟩
  · cases (run_onHost_of_error mkError hf).symm.trans hrun
  · cases (run_onHost_of_ok mkError hf).symm.trans hrun
    rfl

end StandardsGate
