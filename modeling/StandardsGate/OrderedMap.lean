/-!
Maps that remember the order in which their keys came.

A key that is inserted again keeps its place and gets the new value.

Main definitions:

* `OrderedMap` — entries with distinct keys, in the order of first insertion;
* `OrderedMap.insert`, `OrderedMap.get?`, `OrderedMap.ofList` — building and looking up.

Main results:

* `OrderedMap.get?_insert` — what an insertion does to a look-up;
* `OrderedMap.keys_insert` — what it does to the keys.
-/

namespace StandardsGate

/-- Entries with one of them set: in the place of the entry that has the key, or else at the end. -/
def setEntry {κ α : Type} [DecidableEq κ] (key : κ) (value : α) : List (κ × α) → List (κ × α)
  | [] => [(key, value)]
  | (k, v) :: rest => if k = key then (k, value) :: rest else (k, v) :: setEntry key value rest

theorem map_fst_setEntry {κ α : Type} [DecidableEq κ] (key : κ) (value : α) (es : List (κ × α)) :
    (setEntry key value es).map Prod.fst =
      if key ∈ es.map Prod.fst then es.map Prod.fst else es.map Prod.fst ++ [key] := by
  induction es with
  | nil => simp [setEntry]
  | cons e rest ih =>
    obtain ⟨k, v⟩ := e
    unfold setEntry
    by_cases h : k = key
    · simp [h]
    · have h' : ¬ key = k := fun e => h e.symm
      simp only [h, if_false, List.map_cons, ih, List.mem_cons, h', false_or]
      split <;> simp

theorem lookup_setEntry {κ α : Type} [DecidableEq κ] (key k : κ) (value : α)
    (es : List (κ × α)) :
    (setEntry key value es).lookup k = if k = key then some value else es.lookup k := by
  induction es with
  | nil =>
    unfold setEntry
    by_cases h : k = key
    · simp [h]
    · have : (k == key) = false := by simpa using h
      simp [List.lookup_cons, this, h]
  | cons e rest ih =>
    obtain ⟨k', v⟩ := e
    unfold setEntry
    by_cases h : k' = key
    · subst h
      by_cases hk : k = k'
      · simp [hk]
      · have : (k == k') = false := by simpa using hk
        simp [List.lookup_cons, this, hk]
    · by_cases hk : k = k'
      · subst hk
        simp [h]
      · have : (k == k') = false := by simpa using hk
        simp [h, List.lookup_cons, this, ih]

/-- A map with distinct keys, in the order of their first insertion. -/
structure OrderedMap (κ α : Type) where
  entries : List (κ × α)
  distinct : (entries.map Prod.fst).Nodup
deriving Repr

namespace OrderedMap

variable {κ α β : Type} [DecidableEq κ]

/-- The map without entries. -/
def empty : OrderedMap κ α := ⟨[], List.nodup_nil⟩

instance : EmptyCollection (OrderedMap κ α) := ⟨empty⟩
instance : Inhabited (OrderedMap κ α) := ⟨empty⟩

/-- The keys, in the order of first insertion. -/
def keys (m : OrderedMap κ α) : List κ := m.entries.map Prod.fst

/-- The values, in the order of their keys. -/
def values (m : OrderedMap κ α) : List α := m.entries.map Prod.snd

/-- The number of keys. -/
def size (m : OrderedMap κ α) : Nat := m.entries.length

/-- The value of a key. -/
def get? (m : OrderedMap κ α) (key : κ) : Option α := m.entries.lookup key

/-- Whether the map has a key. -/
def contains (m : OrderedMap κ α) (key : κ) : Bool := (m.get? key).isSome

/-- Sets the value of a key: in its place if it has one, at the end otherwise. -/
def insert (m : OrderedMap κ α) (key : κ) (value : α) : OrderedMap κ α where
  entries := setEntry key value m.entries
  distinct := by
    rw [map_fst_setEntry]
    split
    · exact m.distinct
    · rename_i h
      rw [List.nodup_append]
      refine ⟨m.distinct, by simp, ?_⟩
      intro a ha b hb
      rw [List.mem_singleton] at hb
      rintro rfl
      exact h (hb ▸ ha)

/-- The map that a list of insertions makes. -/
def ofList (es : List (κ × α)) : OrderedMap κ α :=
  es.foldl (fun m e => m.insert e.1 e.2) empty

@[simp] theorem get?_empty (k : κ) : (empty : OrderedMap κ α).get? k = none := rfl

theorem get?_insert (m : OrderedMap κ α) (key k : κ) (value : α) :
    (m.insert key value).get? k = if k = key then some value else m.get? k :=
  lookup_setEntry key k value m.entries

theorem keys_insert (m : OrderedMap κ α) (key : κ) (value : α) :
    (m.insert key value).keys = if key ∈ m.keys then m.keys else m.keys ++ [key] :=
  map_fst_setEntry key value m.entries

end OrderedMap

end StandardsGate
