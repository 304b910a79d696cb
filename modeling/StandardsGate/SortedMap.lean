/-!
Maps from texts, sorted by key.

Main definitions:

* `SortedMap` — entries whose keys ascend, texts being compared character by character;
* `SortedMap.insert`, `SortedMap.get?`, `SortedMap.ofList` — building and looking up.

Main results:

* `SortedMap.get?_insert` — what an insertion does to a look-up;
* `SortedMap.get?_of_mem`, `SortedMap.mem_entries_iff` — the listed entries are those found under
  their key.
-/

namespace StandardsGate

/-- Sorted entries with one of them set. -/
def setSorted {α : Type} (key : String) (value : α) :
    List (String × α) → List (String × α)
  | [] => [(key, value)]
  | (k, v) :: rest =>
    if key = k then (key, value) :: rest
    else if key < k then (key, value) :: (k, v) :: rest
    else (k, v) :: setSorted key value rest

theorem mem_setSorted {α : Type} {key : String} {value : α} {es : List (String × α)}
    {e : String × α} (h : e ∈ setSorted key value es) : e = (key, value) ∨ e ∈ es := by
  induction es with
  | nil => simpa [setSorted] using h
  | cons head rest ih =>
    obtain ⟨k, v⟩ := head
    unfold setSorted at h
    split at h
    · rcases List.mem_cons.1 h with h | h
      · exact .inl h
      · exact .inr (List.mem_cons_of_mem _ h)
    · split at h
      · rcases List.mem_cons.1 h with h | h
        · exact .inl h
        · exact .inr h
      · rcases List.mem_cons.1 h with h | h
        · exact .inr (h ▸ List.mem_cons_self)
        · rcases ih h with h | h
          · exact .inl h
          · exact .inr (List.mem_cons_of_mem _ h)

theorem pairwise_setSorted {α : Type} (key : String) (value : α) {es : List (String × α)}
    (h : es.Pairwise (fun a b => a.1 < b.1)) :
    (setSorted key value es).Pairwise (fun a b => a.1 < b.1) := by
  induction es with
  | nil => simp [setSorted]
  | cons head rest ih =>
    obtain ⟨k, v⟩ := head
    rw [List.pairwise_cons] at h
    unfold setSorted
    split
    · rename_i hk
      subst hk
      exact List.pairwise_cons.2 h
    · split
      · rename_i hlt
        refine List.pairwise_cons.2 ⟨?_, List.pairwise_cons.2 h⟩
        intro e he
        rcases List.mem_cons.1 he with rfl | he
        · exact hlt
        · exact String.lt_trans hlt (h.1 e he)
      · rename_i hne hlt
        refine List.pairwise_cons.2 ⟨?_, ih h.2⟩
        intro e he
        rcases mem_setSorted he with rfl | he
        · exact Std.lt_of_le_of_ne (String.not_lt.1 hlt) (fun e => hne e.symm)
        · exact h.1 e he

theorem lookup_cons_ite {α : Type} (k k' : String) (v : α) (es : List (String × α)) :
    ((k', v) :: es).lookup k = if k = k' then some v else es.lookup k := by
  by_cases h : k = k'
  · simp [h]
  · have : (k == k') = false := by simpa using h
    simp [List.lookup_cons, this, h]

theorem lookup_setSorted {α : Type} (key k : String) (value : α) (es : List (String × α)) :
    (setSorted key value es).lookup k = if k = key then some value else es.lookup k := by
  induction es with
  | nil => simp [setSorted, lookup_cons_ite]
  | cons head rest ih =>
    obtain ⟨k', v⟩ := head
    unfold setSorted
    split
    · rename_i h
      subst h
      by_cases hk : k = key <;> simp [lookup_cons_ite, hk]
    · rename_i h
      split
      · simp [lookup_cons_ite]
      · rw [lookup_cons_ite, lookup_cons_ite, ih]
        by_cases hk : k = key
        · subst hk
          simp [h]
        · simp [hk]

/-- A map from texts whose entries are sorted by key. -/
structure SortedMap (α : Type) where
  entries : List (String × α)
  ascending : entries.Pairwise (fun a b => a.1 < b.1)
deriving Repr

namespace SortedMap

variable {α : Type}

/-- The map without entries. -/
def empty : SortedMap α := ⟨[], List.Pairwise.nil⟩

instance : EmptyCollection (SortedMap α) := ⟨empty⟩
instance : Inhabited (SortedMap α) := ⟨empty⟩

/-- The keys, ascending. -/
def keys (m : SortedMap α) : List String := m.entries.map Prod.fst

/-- The value of a key. -/
def get? (m : SortedMap α) (key : String) : Option α := m.entries.lookup key

/-- Sets the value of a key. -/
def insert (m : SortedMap α) (key : String) (value : α) : SortedMap α :=
  ⟨setSorted key value m.entries, pairwise_setSorted key value m.ascending⟩

/-- The map that a list of insertions makes: of several values of a key, the last. -/
def ofList (es : List (String × α)) : SortedMap α :=
  es.foldl (fun m e => m.insert e.1 e.2) empty

@[simp] theorem get?_empty (k : String) : (empty : SortedMap α).get? k = none := rfl

theorem get?_insert (m : SortedMap α) (key k : String) (value : α) :
    (m.insert key value).get? k = if k = key then some value else m.get? k :=
  lookup_setSorted key k value m.entries

theorem get?_of_mem {m : SortedMap α} {k : String} {v : α} (h : (k, v) ∈ m.entries) :
    m.get? k = some v := by
  obtain ⟨es, hes⟩ := m
  unfold get?
  dsimp only at h ⊢
  induction es with
  | nil => simp at h
  | cons head rest ih =>
    obtain ⟨k', v'⟩ := head
    rw [List.pairwise_cons] at hes
    rcases List.mem_cons.1 h with h | h
    · obtain ⟨rfl, rfl⟩ := Prod.mk.inj h
      simp
    · have hlt : k' < k := hes.1 (k, v) h
      have hne : k ≠ k' := fun e => String.lt_irrefl k (e ▸ hlt)
      have : (k == k') = false := by simpa using hne
      simp [List.lookup_cons, this, ih hes.2 h]

theorem mem_entries_iff {m : SortedMap α} {k : String} {v : α} :
    (k, v) ∈ m.entries ↔ m.get? k = some v := by
  refine ⟨get?_of_mem, fun h => ?_⟩
  obtain ⟨before, after, hentries, -⟩ := List.lookup_eq_some_iff.1 h
  exact hentries ▸ List.mem_append_right _ List.mem_cons_self

end SortedMap

end StandardsGate
