import StandardsGate.OrderedMap
import Mathlib.Data.List.Nodup

/-!
Insertions one after the other.

A map is determined by the order of its keys and by its look-ups. After a list of insertions the
keys are those that were there before, followed by the new ones in the order of their first
insertion, and a key has the value that was inserted last. What a map looks like therefore does not
depend on whether insertions are collected in a map of their own first.

Main definitions:

* `OrderedMap.insertAll` — a map after a list of insertions.

Main results:

* `OrderedMap.ext_get?` — **the order of the keys and the look-ups determine a map**;
* `OrderedMap.keys_insertAll`, `OrderedMap.get?_insertAll` — what insertions do to both;
* `OrderedMap.insertAll_entries_insertAll` — **insertions may be collected first**;
* `OrderedMap.entries_insertAll_of_nodup` — insertions of new keys are entries at the end;
* `OrderedMap.values_insertAll_eq_iff` — **no inserted value is lost exactly if no key is
  repeated**.
-/

namespace StandardsGate

/-! ### First occurrences -/

section EraseDups

variable {α : Type} [BEq α] [LawfulBEq α]

theorem nodup_eraseDups : (as : List α) → as.eraseDups.Nodup
  | [] => by simp
  | a :: as => by
      rw [List.eraseDups_cons, List.nodup_cons]
      exact ⟨by simp, nodup_eraseDups (as.filter fun b => !b == a)⟩
termination_by as => as.length
decreasing_by exact Nat.lt_succ_of_le (List.length_filter_le _ _)

/-- Erasing repetitions and filtering commute. -/
theorem eraseDups_filter (p : α → Bool) :
    (as : List α) → (as.filter p).eraseDups = as.eraseDups.filter p
  | [] => rfl
  | a :: as => by
      have ih := eraseDups_filter p (as.filter fun b => !b == a)
      rw [List.eraseDups_cons, List.filter_cons, List.filter_cons, ← ih]
      cases hp : p a with
      | true =>
          rw [if_pos rfl, if_pos rfl, List.eraseDups_cons, List.filter_comm]
      | false =>
          -- the head is erased by the filter, so the elements that pass it all differ from it
          have hdiff : (as.filter fun b => !b == a).filter p = as.filter p := by
            rw [List.filter_filter]
            refine List.filter_congr fun b _ => ?_
            cases hb : p b with
            | false => rfl
            | true =>
                have : b ≠ a := by rintro rfl; rw [hp] at hb; cases hb
                simpa using this
          simp [hdiff]
termination_by as => as.length
decreasing_by exact Nat.lt_succ_of_le (List.length_filter_le _ _)

/-- A list without repetitions is its own list of first occurrences. -/
theorem eraseDups_eq_self {as : List α} (h : as.Nodup) : as.eraseDups = as := by
  induction as with
  | nil => rfl
  | cons a as ih =>
      obtain ⟨ha, has⟩ := List.nodup_cons.1 h
      have hfilter : as.filter (fun b => !b == a) = as := by
        refine List.filter_eq_self.2 fun b hb => ?_
        have : b ≠ a := by rintro rfl; exact ha hb
        simpa using this
      rw [List.eraseDups_cons, hfilter, ih has]

omit [LawfulBEq α] in
theorem eraseDups_sublist : (as : List α) → as.eraseDups.Sublist as
  | [] => List.Sublist.refl _
  | a :: as => by
      rw [List.eraseDups_cons]
      exact ((eraseDups_sublist (as.filter fun b => !b == a)).trans List.filter_sublist).cons_cons a
termination_by as => as.length
decreasing_by exact Nat.lt_succ_of_le (List.length_filter_le _ _)

/-- Repetitions in a first part may be erased before those of the whole. -/
theorem eraseDups_eraseDups_append (as bs : List α) :
    (as.eraseDups ++ bs).eraseDups = (as ++ bs).eraseDups := by
  have hsame : bs.removeAll as.eraseDups = bs.removeAll as := by
    refine List.filter_congr fun b _ => ?_
    rw [Bool.eq_iff_iff]
    simp
  rw [List.eraseDups_append, List.eraseDups_append, eraseDups_eq_self (nodup_eraseDups as), hsame]

/-- Repetitions in a second part may be erased before those of the whole. -/
theorem eraseDups_append_eraseDups (as bs : List α) :
    (as ++ bs.eraseDups).eraseDups = (as ++ bs).eraseDups := by
  have hcomm : bs.eraseDups.removeAll as = (bs.removeAll as).eraseDups :=
    (eraseDups_filter _ bs).symm
  rw [List.eraseDups_append, List.eraseDups_append, hcomm,
    eraseDups_eq_self (nodup_eraseDups (bs.removeAll as))]

end EraseDups

namespace OrderedMap

variable {κ α : Type} [DecidableEq κ]

/-! ### What determines a map -/

theorem lookup_eq_none_of_not_mem {es : List (κ × α)} {k : κ} (h : k ∉ es.map Prod.fst) :
    es.lookup k = none := by
  refine List.lookup_eq_none_iff.2 fun e he => ?_
  have : k ≠ e.1 := by rintro rfl; exact h (List.mem_map_of_mem he)
  simpa using this

/-- With distinct keys a look-up finds the entry that there is. -/
theorem lookup_eq_some_iff_mem {es : List (κ × α)} (h : (es.map Prod.fst).Nodup) {k : κ} {v : α} :
    es.lookup k = some v ↔ (k, v) ∈ es := by
  induction es with
  | nil => simp
  | cons e es ih =>
      obtain ⟨j, w⟩ := e
      obtain ⟨hj, hes⟩ := List.nodup_cons.1 h
      rw [List.lookup_cons, List.mem_cons, Prod.mk.injEq]
      by_cases hk : k = j
      · subst hk
        have : (k, v) ∉ es := by
          intro he
          exact hj (List.mem_map.2 ⟨_, he, rfl⟩)
        simp [this, eq_comm]
      · have : (k == j) = false := by simpa using hk
        simp [this, hk, ih hes]

/-- A key has a value exactly if it is a key of the map. -/
theorem contains_iff (m : OrderedMap κ α) (k : κ) : m.contains k = true ↔ k ∈ m.keys := by
  rw [contains, Option.isSome_iff_exists]
  constructor
  · rintro ⟨v, hv⟩
    exact List.mem_map.2 ⟨_, (lookup_eq_some_iff_mem m.distinct).1 hv, rfl⟩
  · intro h
    obtain ⟨e, he, rfl⟩ := List.mem_map.1 h
    exact ⟨e.2, (lookup_eq_some_iff_mem m.distinct).2 he⟩

/-- With distinct keys the order of the entries does not matter to a look-up. -/
theorem lookup_reverse {es : List (κ × α)} (h : (es.map Prod.fst).Nodup) (k : κ) :
    es.reverse.lookup k = es.lookup k := by
  have h' : (es.reverse.map Prod.fst).Nodup := by
    rw [List.map_reverse]
    exact List.nodup_reverse.2 h
  ext v
  rw [lookup_eq_some_iff_mem h', lookup_eq_some_iff_mem h, List.mem_reverse]

/-- The order of the keys and the look-ups determine the entries. -/
theorem entries_ext {es fs : List (κ × α)} (hes : (es.map Prod.fst).Nodup)
    (hkeys : es.map Prod.fst = fs.map Prod.fst) (hget : ∀ k, es.lookup k = fs.lookup k) :
    es = fs := by
  induction es generalizing fs with
  | nil => simpa using hkeys
  | cons e es ih =>
      obtain ⟨k, v⟩ := e
      cases fs with
      | nil => simp at hkeys
      | cons f fs =>
          obtain ⟨k', v'⟩ := f
          simp only [List.map_cons, List.cons.injEq] at hkeys
          obtain ⟨rfl, hkeys⟩ := hkeys
          have hv : v = v' := by simpa using hget k
          obtain ⟨hk, hes⟩ := List.nodup_cons.1 hes
          have hrest : es = fs := by
            refine ih hes hkeys fun j => ?_
            by_cases hj : j = k
            · subst hj
              rw [lookup_eq_none_of_not_mem hk, lookup_eq_none_of_not_mem (hkeys ▸ hk)]
            · have : (j == k) = false := by simpa using hj
              simpa [List.lookup_cons, this] using hget j
          rw [hv, hrest]

/-- **The order of the keys and the look-ups determine a map.** -/
theorem ext_get? {m n : OrderedMap κ α} (hkeys : m.keys = n.keys)
    (hget : ∀ k, m.get? k = n.get? k) : m = n := by
  obtain ⟨es, hes⟩ := m
  obtain ⟨fs, hfs⟩ := n
  obtain rfl : es = fs := entries_ext hes hkeys hget
  rfl

/-! ### Insertions -/

/-- A key that is inserted twice has the second value. -/
theorem insert_insert (m : OrderedMap κ α) (key : κ) (value value' : α) :
    (m.insert key value).insert key value' = m.insert key value' := by
  refine ext_get? ?_ fun k => ?_
  · have hmem : key ∈ (m.insert key value).keys := by
      rw [keys_insert]
      split <;> simp [*]
    rw [keys_insert, if_pos hmem, keys_insert, keys_insert]
  · simp only [get?_insert]
    split <;> rfl

/-- A map after a list of insertions. -/
def insertAll (m : OrderedMap κ α) (es : List (κ × α)) : OrderedMap κ α :=
  es.foldl (fun m e => m.insert e.1 e.2) m

@[simp] theorem insertAll_nil (m : OrderedMap κ α) : m.insertAll [] = m := rfl

@[simp] theorem insertAll_cons (m : OrderedMap κ α) (e : κ × α) (es : List (κ × α)) :
    m.insertAll (e :: es) = (m.insert e.1 e.2).insertAll es := rfl

theorem insertAll_append (m : OrderedMap κ α) (es fs : List (κ × α)) :
    m.insertAll (es ++ fs) = (m.insertAll es).insertAll fs := List.foldl_append

omit [DecidableEq κ] in
theorem nodup_keys (m : OrderedMap κ α) : m.keys.Nodup := m.distinct

theorem keys_insert_eq_eraseDups (m : OrderedMap κ α) (key : κ) (value : α) :
    (m.insert key value).keys = (m.keys ++ [key]).eraseDups := by
  rw [keys_insert, List.eraseDups_append, eraseDups_eq_self m.nodup_keys]
  split
  · rename_i h
    simp [List.removeAll, h]
  · rename_i h
    simp [List.removeAll, h, List.eraseDups_cons]

/-- **The keys after insertions**: those before, and the new ones as they came first. -/
theorem keys_insertAll (m : OrderedMap κ α) (es : List (κ × α)) :
    (m.insertAll es).keys = (m.keys ++ es.map Prod.fst).eraseDups := by
  induction es generalizing m with
  | nil => simp [eraseDups_eq_self m.nodup_keys]
  | cons e es ih =>
      rw [insertAll_cons, ih, keys_insert_eq_eraseDups, eraseDups_eraseDups_append]
      simp

/-- **The values after insertions**: the last one that was inserted counts. -/
theorem get?_insertAll (m : OrderedMap κ α) (es : List (κ × α)) (k : κ) :
    (m.insertAll es).get? k = (es.reverse.lookup k).or (m.get? k) := by
  induction es generalizing m with
  | nil => rfl
  | cons e es ih =>
      obtain ⟨key, value⟩ := e
      rw [insertAll_cons, ih, get?_insert, List.reverse_cons, List.lookup_append, Option.or_assoc]
      by_cases hk : k = key
      · simp [hk]
      · have : (k == key) = false := by simpa using hk
        simp [hk, List.lookup_cons, this]

/-- Insertions that are made once more change nothing. -/
theorem insertAll_insertAll (m : OrderedMap κ α) (es : List (κ × α)) :
    (m.insertAll es).insertAll es = m.insertAll es := by
  refine ext_get? ?_ fun k => ?_
  · have hnone : (es.map Prod.fst).removeAll (m.keys ++ es.map Prod.fst) = [] := by
      simp +contextual [List.removeAll, List.filter_eq_nil_iff]
    rw [keys_insertAll, keys_insertAll, eraseDups_eraseDups_append, List.eraseDups_append, hnone]
    simp
  · rw [get?_insertAll, get?_insertAll, ← Option.or_assoc, Option.or_self]

/-- **Insertions may be collected first**: inserting what they come to on their own has the same
result. -/
theorem insertAll_entries_insertAll (m : OrderedMap κ α) (es : List (κ × α)) :
    m.insertAll ((empty : OrderedMap κ α).insertAll es).entries = m.insertAll es := by
  refine ext_get? ?_ fun k => ?_
  · rw [keys_insertAll, keys_insertAll]
    change (m.keys ++ (empty.insertAll es).keys).eraseDups = _
    rw [keys_insertAll]
    exact eraseDups_append_eraseDups _ _
  · rw [get?_insertAll, get?_insertAll, lookup_reverse (distinct _)]
    change ((empty.insertAll es).get? k).or _ = _
    rw [get?_insertAll]
    simp

/-- Inserting the entries of a map into the empty one gives the map. -/
theorem insertAll_entries (m : OrderedMap κ α) :
    (empty : OrderedMap κ α).insertAll m.entries = m := by
  refine ext_get? ?_ fun k => ?_
  · rw [keys_insertAll]
    exact eraseDups_eq_self m.nodup_keys
  · rw [get?_insertAll, lookup_reverse m.distinct]
    exact Option.or_none

theorem entries_insert_of_not_mem {m : OrderedMap κ α} {key : κ} (h : key ∉ m.keys) (value : α) :
    (m.insert key value).entries = m.entries ++ [(key, value)] := by
  change setEntry key value m.entries = _
  rw [keys] at h
  generalize m.entries = es at h ⊢
  induction es with
  | nil => rfl
  | cons e es ih =>
      simp only [List.map_cons, List.mem_cons, not_or] at h
      rw [setEntry, if_neg (Ne.symm h.1), ih h.2]
      rfl

/-- **Insertions of new keys** are entries at the end. -/
theorem entries_insertAll_of_nodup {m : OrderedMap κ α} {es : List (κ × α)}
    (h : (m.keys ++ es.map Prod.fst).Nodup) :
    (m.insertAll es).entries = m.entries ++ es := by
  induction es generalizing m with
  | nil => simp
  | cons e es ih =>
      have hnew : e.1 ∉ m.keys := by
        intro he
        exact (List.nodup_append.1 h).2.2 _ he _ (by simp) rfl
      have hrest : ((m.insert e.1 e.2).keys ++ es.map Prod.fst).Nodup := by
        rw [keys_insert, if_neg hnew]
        simpa using h
      rw [insertAll_cons, ih hrest, entries_insert_of_not_mem hnew]
      simp

/-! ### Values -/

/-- The values are those of the keys. -/
theorem values_eq_filterMap (m : OrderedMap κ α) : m.values = m.keys.filterMap m.get? := by
  have hget : ∀ e ∈ m.entries, m.get? e.1 = some e.2 := fun e he =>
    (lookup_eq_some_iff_mem m.distinct).2 he
  rw [keys, List.filterMap_map, List.filterMap_congr (g := fun e => some e.2) hget, values]
  simp

/-- **No inserted value is lost exactly if no key is repeated.** -/
theorem values_insertAll_eq_iff (es : List (κ × α)) :
    ((empty : OrderedMap κ α).insertAll es).values = es.map Prod.snd ↔
      (es.map Prod.fst).Nodup := by
  constructor
  · intro h
    -- as many keys as insertions are left, so none was repeated
    have hlength : (es.map Prod.fst).eraseDups.length = (es.map Prod.fst).length := by
      have hkeys := keys_insertAll (empty : OrderedMap κ α) es
      change (empty.insertAll es).keys = (es.map Prod.fst).eraseDups at hkeys
      have hvalues := congrArg List.length h
      simp only [values, List.length_map] at hvalues ⊢
      rw [← hkeys, keys, List.length_map, hvalues]
    rw [← (eraseDups_sublist _).eq_of_length hlength]
    exact nodup_eraseDups _
  · intro h
    rw [values, entries_insertAll_of_nodup (m := empty) h]
    rfl

end OrderedMap

end StandardsGate
