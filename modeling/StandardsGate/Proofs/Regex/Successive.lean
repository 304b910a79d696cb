import StandardsGate.Proofs.Regex.Infix

/-!
Successive matches.

A search goes on where the last match ended, and takes the next match that counts: every match does
but an empty one right behind the last match. What is found in this way is told by the ends of the
preferred matches alone, and there is one such list for every text. A program takes characters from
a position on, so a match never ends in front of its beginning or behind the text. Hence each match
moves the search on, and the rounds that it is given are enough.

Main definitions:

* `Regex.Counts` — which matches count after the last one;
* `Regex.Successive` — leftmost matches one after the other, from a position on;
* `Regex.spans` — where the matches of a text stand.

Main results:

* `Regex.Successive.unique` — there is one such list;
* `Regex.bounds_of_ends` — **a match stands in the text**;
* `Regex.successive_scanFrom` — so many rounds find them all;
* `Regex.successive_iff` — **what a search finds** is this list and no other.
-/

namespace StandardsGate.Regex

/-! ### Leftmost matches, one after the other -/

/-- Whether a match from `i` to `e` counts after one that ended at `last`: it is the preferred one
there, and not an empty one right behind the last. -/
def Counts (ends : List (Option Nat)) (last : Option Nat) (i e : Nat) : Prop :=
  ends[i]? = some (some e) ∧ ¬ (i = e ∧ last = some i)

/-- The matches from a position on, of which the first is the leftmost that counts, and the others
are those behind its end. -/
inductive Successive (ends : List (Option Nat)) : Nat → Option Nat → List (Nat × Nat) → Prop
  /-- No match counts. -/
  | done {pos : Nat} {last : Option Nat} (hnone : ∀ i e, pos ≤ i → ¬ Counts ends last i e) :
      Successive ends pos last []
  /-- The leftmost match that counts, and those behind it. -/
  | next {pos : Nat} {last : Option Nat} {i e : Nat} {ms : List (Nat × Nat)} (hpos : pos ≤ i)
      (hcounts : Counts ends last i e)
      (hleftmost : ∀ j e', pos ≤ j → j < i → ¬ Counts ends last j e')
      (hrest : Successive ends e (some e) ms) : Successive ends pos last ((i, e) :: ms)

namespace Successive

variable {ends : List (Option Nat)} {pos : Nat} {last : Option Nat} {ms : List (Nat × Nat)}

/-- **There is one such list.** -/
theorem unique {ms' : List (Nat × Nat)} (h : Successive ends pos last ms)
    (h' : Successive ends pos last ms') : ms = ms' := by
  induction h generalizing ms' with
  | done hnone =>
      cases h' with
      | done => rfl
      | next hpos hcounts => exact absurd hcounts (hnone _ _ hpos)
  | @next pos last i e ms hpos hcounts hleftmost hrest ih =>
      cases h' with
      | done hnone => exact absurd hcounts (hnone _ _ hpos)
      | @next _ _ i' e' ms' hpos' hcounts' hleftmost' hrest' =>
          -- neither of the two first matches stands to the left of the other
          have hi : i = i' := by
            rcases Nat.lt_trichotomy i i' with hlt | heq | hlt
            · exact absurd hcounts (hleftmost' _ _ hpos hlt)
            · exact heq
            · exact absurd hcounts' (hleftmost _ _ hpos' hlt)
          subst hi
          obtain rfl : e = e' := Option.some.inj (Option.some.inj (hcounts.1.symm.trans hcounts'.1))
          rw [ih hrest']

/-- Something is found at first exactly if there is a match. -/
theorem ne_nil_iff (h : Successive ends 0 none ms) :
    ms ≠ [] ↔ ∃ i e : Nat, ends[i]? = some (some e) := by
  cases h with
  | done hnone =>
      refine iff_of_false (fun hne => hne rfl) ?_
      rintro ⟨i, e, hmatch⟩
      exact hnone i e (Nat.zero_le i) ⟨hmatch, by simp⟩
  | next hpos hcounts => exact iff_of_true (List.cons_ne_nil _ _) ⟨_, _, hcounts.1⟩

end Successive

/-! ### The rounds of a search -/

section

variable {ends : List (Option Nat)}

theorem firstMatch_drop_eq_none_iff {pos : Nat} :
    firstMatch pos (ends.drop pos) = none ↔ ∀ i e, pos ≤ i → ends[i]? ≠ some (some e) := by
  rw [firstMatch_eq_none_iff]
  constructor
  · intro h i e hi hmatch
    have hmem : some e ∈ ends.drop pos := by
      refine List.mem_iff_getElem?.2 ⟨i - pos, ?_⟩
      rw [List.getElem?_drop, Nat.add_sub_cancel' hi, hmatch]
    cases h _ hmem
  · intro h m hm
    obtain ⟨k, hk⟩ := List.mem_iff_getElem?.1 hm
    rw [List.getElem?_drop] at hk
    cases m with
    | none => rfl
    | some e => exact absurd hk (h _ e (Nat.le_add_right pos k))

/-- The first match of a list of ends is found behind those positions at which there is none. -/
theorem exists_of_firstMatch {pos i e : Nat} {rest : List (Option Nat)}
    (h : firstMatch pos rest = some (i, e)) :
    ∃ k, i = pos + k ∧ rest[k]? = some (some e) ∧ ∀ j < k, rest[j]? = some none := by
  induction rest generalizing pos with
  | nil => cases h
  | cons m rest ih =>
      cases m with
      | some e' =>
          obtain ⟨rfl, rfl⟩ := Prod.mk.inj (Option.some.inj h)
          exact ⟨0, rfl, rfl, by simp⟩
      | none =>
          obtain ⟨k, rfl, hmatch, hpassed⟩ := ih h
          refine ⟨k + 1, by omega, hmatch, fun j hj => ?_⟩
          cases j with
          | zero => rfl
          | succ j => exact hpassed j (by omega)

theorem firstMatch_drop_eq_some {pos i e : Nat} (h : firstMatch pos (ends.drop pos) = some (i, e)) :
    pos ≤ i ∧ ends[i]? = some (some e) ∧
      ∀ j e', pos ≤ j → j < i → ends[j]? ≠ some (some e') := by
  obtain ⟨k, rfl, hmatch, hpassed⟩ := exists_of_firstMatch h
  rw [List.getElem?_drop] at hmatch
  refine ⟨Nat.le_add_right pos k, hmatch, fun j e' hj hlt hother => ?_⟩
  have hnone := hpassed (j - pos) (by omega)
  rw [List.getElem?_drop, Nat.add_sub_cancel' hj, hother] at hnone
  cases hnone

/-- A round finds nothing only if no match counts. -/
theorem nextMatch_eq_none {pos : Nat} {last : Option Nat}
    (h : nextMatch ends pos last = none) : ∀ i e, pos ≤ i → ¬ Counts ends last i e := by
  intro i e hi hcounts
  unfold nextMatch at h
  split at h
  · rename_i hnone
    exact firstMatch_drop_eq_none_iff.1 hnone i e hi hcounts.1
  · rename_i s k hsome
    split at h
    · rename_i hempty
      obtain ⟨rfl, hlast⟩ : s = k ∧ last = some k := by simpa using hempty
      obtain ⟨hs, hmatch, hbefore⟩ := firstMatch_drop_eq_some hsome
      have hlater := firstMatch_drop_eq_none_iff.1 h
      rcases Nat.lt_trichotomy i s with hlt | rfl | hlt
      · exact hbefore i e hi hlt hcounts.1
      · obtain rfl := Option.some.inj (Option.some.inj (hcounts.1.symm.trans hmatch))
        exact hcounts.2 ⟨rfl, hlast⟩
      · exact hlater i e (by omega) hcounts.1
    · cases h

/-- A round finds the leftmost match that counts. The last match ended where the round begins. -/
theorem nextMatch_eq_some {pos i e : Nat} {last : Option Nat} (hlast : ∀ l ∈ last, l = pos)
    (h : nextMatch ends pos last = some (i, e)) :
    pos ≤ i ∧ Counts ends last i e ∧ ∀ j e', pos ≤ j → j < i → ¬ Counts ends last j e' := by
  unfold nextMatch at h
  split at h
  · cases h
  · rename_i s k hsome
    obtain ⟨hs, hmatch, hbefore⟩ := firstMatch_drop_eq_some hsome
    split at h
    · -- the empty match right behind the last one is passed over
      rename_i hempty
      obtain ⟨rfl, hends⟩ : s = k ∧ last = some k := by simpa using hempty
      obtain rfl := hlast s hends
      obtain ⟨hle, hnext, hpassed⟩ := firstMatch_drop_eq_some h
      refine ⟨by omega, ⟨hnext, fun hcontra => ?_⟩, fun j e' hj hlt hcounts => ?_⟩
      · have : i = s := hlast i hcontra.2
        omega
      · rcases Nat.eq_or_lt_of_le hj with rfl | hj
        · obtain rfl := Option.some.inj (Option.some.inj (hcounts.1.symm.trans hmatch))
          exact hcounts.2 ⟨rfl, hends⟩
        · exact hpassed j e' (by omega) hlt hcounts.1
    · rename_i hcounts
      obtain ⟨rfl, rfl⟩ := Prod.mk.inj (Option.some.inj h)
      refine ⟨hs, ⟨hmatch, ?_⟩, fun j e' hj hlt hother => hbefore j e' hj hlt hother.1⟩
      rintro ⟨rfl, hends⟩
      exact hcounts (by simp [hends])

/-- So many rounds find them all: each match ends behind the one before it, but for the first. -/
theorem successive_scanFrom (hends : ∀ i e, ends[i]? = some (some e) → i ≤ e ∧ e < ends.length)
    {fuel pos : Nat} {last : Option Nat} (hlast : ∀ l ∈ last, l = pos)
    (hfuel : ends.length - pos + (if last.isNone then 1 else 0) ≤ fuel) :
    Successive ends pos last (scanFrom ends fuel pos last) := by
  induction fuel generalizing pos last with
  | zero =>
      refine .done fun i e hi hcounts => ?_
      obtain ⟨hle, hlt⟩ := hends i e hcounts.1
      omega
  | succ fuel ih =>
      rw [scanFrom]
      split
      · rename_i hnone
        exact .done (nextMatch_eq_none hnone)
      · rename_i i e hsome
        obtain ⟨hpos, hcounts, hleftmost⟩ := nextMatch_eq_some hlast hsome
        obtain ⟨hle, hlt⟩ := hends i e hcounts.1
        refine .next hpos hcounts hleftmost (ih (by simp) ?_)
        have hprogress : last.isNone = false → pos < e := by
          intro hbehind
          obtain ⟨l, rfl⟩ := Option.isSome_iff_exists.1 (Option.isNone_eq_false_iff.1 hbehind)
          obtain rfl := hlast l rfl
          rcases Nat.eq_or_lt_of_le hpos with rfl | hpos
          · exact Nat.lt_of_le_of_ne hle fun heq => hcounts.2 ⟨heq, rfl⟩
          · exact Nat.lt_of_lt_of_le hpos hle
        cases hnone : last.isNone with
        | true =>
            rw [hnone] at hfuel
            simp at hfuel ⊢
            omega
        | false =>
            have := hprogress hnone
            rw [hnone] at hfuel
            simp at hfuel ⊢
            omega

end

/-! ### Where matches end -/

section

variable {p : Program} {unicodeWord : CodeSet} {entries : List Nat} {looks : List Look}

/-- The preferred match ends here, or where one ends that begins one position later. -/
theorem preferredEnd_eq_some {after : Option Char} {pos e : Nat} {col : Array (Option Nat)}
    {targets : List Nat} (h : preferredEnd p after pos col targets = some e) :
    e = pos ∨ after.isSome ∧ ∃ next, col.getD next none = some e := by
  obtain ⟨pc, -, hpc⟩ := List.exists_of_findSome?_eq_some h
  split at hpc
  · exact .inl (Option.some.inj hpc).symm
  · rename_i s next hinstr
    split at hpc
    · rename_i hcol
      split at hpc
      · cases hpc
        exact .inr ⟨rfl, next, hcol⟩
      · cases hpc
    · cases hpc
  · cases hpc

/-- What a column knows was worked out there. -/
theorem exists_preferredEnd_of_step {w : Walk} {before after : Option Char} {pos pc e : Nat}
    (h : (w.step p unicodeWord entries looks before after pos).column.getD pc none = some e) :
    ∃ targets, preferredEnd p after pos w.column targets = some e := by
  have hfold : ∀ (table : List (Nat × List Nat)) (col : Array (Option Nat)),
      (table.foldl (fun col e =>
        col.setIfInBounds e.1 (preferredEnd p after pos w.column e.2)) col).getD pc none = some e →
      col.getD pc none = some e ∨
        ∃ targets, preferredEnd p after pos w.column targets = some e := by
    intro table
    induction table with
    | nil => exact fun col h => .inl h
    | cons t table ih =>
        intro col h
        rcases ih _ h with h | h
        · rw [getD_setIfInBounds] at h
          split at h
          · exact .inr ⟨_, h⟩
          · exact .inl h
        · exact .inr h
  rcases hfold _ _ h with h | h
  · rw [Array.getD_eq_getD_getElem?, Array.getElem?_replicate] at h
    split at h <;> cases h
  · exact h

/-- **A column knows of matches in the rest of the text only.** -/
theorem bounds_of_column {before : Option Char} {pos pc e : Nat} {text : List Char}
    (h : (walk p unicodeWord entries looks before pos text).column.getD pc none = some e) :
    pos ≤ e ∧ e ≤ pos + text.length := by
  induction text generalizing before pos pc with
  | nil =>
      obtain ⟨targets, htargets⟩ := exists_preferredEnd_of_step h
      rcases preferredEnd_eq_some htargets with rfl | ⟨hafter, -⟩
      · exact ⟨Nat.le_refl e, Nat.le_refl e⟩
      · cases hafter
  | cons c text ih =>
      obtain ⟨targets, htargets⟩ := exists_preferredEnd_of_step h
      rcases preferredEnd_eq_some htargets with rfl | ⟨-, next, hnext⟩
      · exact ⟨Nat.le_refl e, Nat.le_add_right _ _⟩
      · obtain ⟨hle, hlt⟩ := ih hnext
        rw [List.length_cons]
        omega

theorem length_ends_walk (before : Option Char) (pos : Nat) (text : List Char) :
    (walk p unicodeWord entries looks before pos text).ends.length = text.length + 1 := by
  induction text generalizing before pos with
  | nil => rfl
  | cons c text ih => exact congrArg (· + 1) (ih (some c) (pos + 1))

/-- What is worked out for a position of a text is what a walk from there on finds. -/
theorem exists_ends_walk_getElem? {text : List Char} {i : Nat} (hi : i ≤ text.length)
    (before : Option Char) (pos : Nat) :
    ∃ before', (walk p unicodeWord entries looks before pos text).ends[i]? =
      some ((walk p unicodeWord entries looks before' (pos + i)
        (text.drop i)).column.getD p.start none) := by
  induction i generalizing text before pos with
  | zero =>
      refine ⟨before, ?_⟩
      cases text <;> rfl
  | succ i ih =>
      cases text with
      | nil => simp at hi
      | cons c text =>
          obtain ⟨before', hends⟩ := ih (Nat.le_of_succ_le_succ hi) (some c) (pos + 1)
          refine ⟨before', ?_⟩
          rw [Nat.add_assoc, Nat.add_comm 1 i] at hends
          exact hends

end

theorem length_ends (r : Regex) (text : List Char) : (r.ends text).length = text.length + 1 :=
  length_ends_walk none 0 text

/-- **A match stands in the text.** -/
theorem bounds_of_ends {r : Regex} {text : List Char} {i e : Nat}
    (h : (r.ends text)[i]? = some (some e)) : i ≤ e ∧ e ≤ text.length := by
  have hi : i ≤ text.length := by
    obtain ⟨hlt, -⟩ := List.getElem?_eq_some_iff.1 h
    rw [length_ends] at hlt
    omega
  obtain ⟨before, hends⟩ := exists_ends_walk_getElem? hi none 0
  rw [ends, Program.ends, hends] at h
  obtain ⟨hle, hlt⟩ := bounds_of_column (Option.some.inj h)
  rw [List.length_drop] at hlt
  omega

/-! ### What is found -/

/-- Where the matches of a text stand. -/
def spans (r : Regex) (text : List Char) : List (Nat × Nat) := scan (r.ends text)

theorem findAll_eq (r : Regex) (text : List Char) :
    r.findAll text = (r.spans text).map fun m => (text.drop m.1).take (m.2 - m.1) := rfl

/-- **What a search finds**: the leftmost matches, each behind the one before, and no other list. -/
theorem successive_iff (r : Regex) (text : List Char) (ms : List (Nat × Nat)) :
    Successive (r.ends text) 0 none ms ↔ r.spans text = ms := by
  have hspans : Successive (r.ends text) 0 none (r.spans text) := by
    refine successive_scanFrom (fun i e h => ?_) (by simp) ?_
    · obtain ⟨hle, hlt⟩ := bounds_of_ends h
      rw [length_ends]
      omega
    · have : 0 < (r.ends text).length := by
        rw [length_ends]
        omega
      simp only [Option.isNone_none, if_true]
      omega
  exact ⟨hspans.unique, fun h => h ▸ hspans⟩

end StandardsGate.Regex
