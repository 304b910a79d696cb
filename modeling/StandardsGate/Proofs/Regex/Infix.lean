import StandardsGate.Regex

/-!
Patterns in larger texts.

A pattern without assertions looks at no character but those it takes. Whatever it finds in a text
it finds, there or earlier, in every larger text: the search works from the end of the text to its
start, and each column that it makes for the larger text has a match wherever the column for the
smaller one has one.

Main definitions:

* `Regex.AssertionFree` — a pattern has no assertions;
* `Regex.Forbids` — such a pattern finds something in a word;
* `Regex.Walk.Covers` — one walk has matches wherever another one has some.

Main results:

* `Regex.Walk.Covers.step` — **one character** keeps the relation;
* `Regex.walk_covers` — **a whole text**, by induction;
* `Regex.findAll_ne_nil_of_infix` — **what stands in a larger text is found there**.
-/

namespace StandardsGate.Regex

/-- A pattern has no assertions. -/
def AssertionFree (r : Regex) : Prop := looks r.program = []

/-- A word is forbidden by a pattern without assertions if the pattern finds something in it. -/
structure Forbids (r : Regex) (word : List Char) : Prop where
  assertionFree : r.AssertionFree
  findAll_ne_nil : r.findAll word ≠ []

/-! ### Matches -/

theorem firstMatch_eq_none_iff (pos : Nat) (ends : List (Option Nat)) :
    firstMatch pos ends = none ↔ ∀ e ∈ ends, e = none := by
  induction ends generalizing pos with
  | nil => simp [firstMatch]
  | cons e ends ih => cases e <;> simp [firstMatch, ih]

/-- There are matches exactly if one begins at some position. -/
theorem scan_eq_nil_iff (ends : List (Option Nat)) :
    scan ends = [] ↔ ∀ e ∈ ends, e = none := by
  rw [← firstMatch_eq_none_iff 0, scan, scanFrom, nextMatch, List.drop_zero]
  cases firstMatch 0 ends <;> simp

theorem findAll_ne_nil_iff (r : Regex) (text : List Char) :
    r.findAll text ≠ [] ↔ ∃ e ∈ r.ends text, e.isSome := by
  rw [findAll, ne_eq, List.map_eq_nil_iff, scan_eq_nil_iff]
  simp [Option.isSome_iff_ne_none]

/-! ### One position -/

variable {p : Program} {unicodeWord : CodeSet} {entries : List Nat}

/-- One column has matches wherever another one has some. -/
def ColumnLe (col col' : Array (Option Nat)) : Prop :=
  ∀ pc, (col.getD pc none).isSome → (col'.getD pc none).isSome

theorem getD_setIfInBounds {α : Type} (col : Array α) (i pc : Nat) (v d : α) :
    (col.setIfInBounds i v).getD pc d = if i = pc ∧ pc < col.size then v else col.getD pc d := by
  simp only [Array.getD_eq_getD_getElem?, Array.getElem?_setIfInBounds]
  by_cases h : i = pc
  · subst h
    by_cases hlt : i < col.size <;> simp [hlt]
  · simp [h]

/-- What is preferred at one position follows the matches one position later. -/
theorem isSome_preferredEnd {col col' : Array (Option Nat)} (h : ColumnLe col col')
    {after after' : Option Char} (hafter : ∀ c, after = some c → after' = some c) (pos pos' : Nat)
    (targets : List Nat) (hsome : (preferredEnd p after pos col targets).isSome) :
    (preferredEnd p after' pos' col' targets).isSome := by
  rw [preferredEnd, List.findSome?_isSome_iff] at hsome ⊢
  obtain ⟨pc, hpc, hmatch⟩ := hsome
  refine ⟨pc, hpc, ?_⟩
  cases hinstr : p.code.getD pc .accept with
  | accept => rfl
  | assert l next => simp [hinstr] at hmatch
  | fork first second => simp [hinstr] at hmatch
  | consume s next =>
      simp only [hinstr] at hmatch ⊢
      cases hcol : col.getD next none with
      | none => simp [hcol] at hmatch
      | some e =>
          cases after with
          | none => simp [hcol] at hmatch
          | some c =>
              obtain ⟨e', he'⟩ := Option.isSome_iff_exists.1 (h next (by simp [hcol]))
              have hc : s.contains c = true := by simpa [hcol] using hmatch
              simp [he', hafter c rfl, hc]

/-- The column of a position where no assertion is looked at. -/
def columnAt (p : Program) (entries : List Nat) (after : Option Char) (pos : Nat)
    (column : Array (Option Nat)) : Array (Option Nat) :=
  (reachTable p entries []).foldl
    (fun col e => col.setIfInBounds e.1 (preferredEnd p after pos column e.2))
    (Array.replicate p.code.size none)

theorem getD_foldl_setIfInBounds (g : Nat → Option Nat) (entries : List Nat)
    (col : Array (Option Nat)) (pc : Nat) :
    (entries.foldl (fun col e => col.setIfInBounds e (g e)) col).getD pc none =
      if pc ∈ entries ∧ pc < col.size then g pc else col.getD pc none := by
  induction entries generalizing col with
  | nil => simp
  | cons e entries ih =>
      rw [List.foldl_cons, ih, getD_setIfInBounds, Array.size_setIfInBounds]
      by_cases hlt : pc < col.size
      · by_cases he : e = pc
        · subst he
          simp [hlt]
        · simp [hlt, he, Ne.symm he]
      · simp [hlt]

/-- A column has the preferred matches from the entries. -/
theorem getD_columnAt (after : Option Char) (pos : Nat) (col : Array (Option Nat)) (pc : Nat) :
    (columnAt p entries after pos col).getD pc none =
      if pc ∈ entries ∧ pc < p.code.size then
        preferredEnd p after pos col (reach p.code (List.contains []) pc)
      else none := by
  rw [columnAt, reachTable, List.foldl_map, getD_foldl_setIfInBounds, Array.size_replicate]
  split
  · rfl
  · by_cases hlt : pc < p.code.size <;> simp [Array.getD_eq_getD_getElem?, hlt]

theorem columnLe_columnAt {col col' : Array (Option Nat)} (h : ColumnLe col col')
    {after after' : Option Char} (hafter : ∀ c, after = some c → after' = some c) (pos pos' : Nat) :
    ColumnLe (columnAt p entries after pos col) (columnAt p entries after' pos' col') := by
  intro pc
  rw [getD_columnAt, getD_columnAt]
  split
  · exact isSome_preferredEnd h hafter pos pos' _
  · exact id

/-! ### A walk -/

namespace Walk

/-- What was worked out about positions of one kind is right. -/
def Sound (p : Program) (entries : List Nat) (w : Walk) : Prop :=
  ∀ e ∈ w.cache, e.2 = reachTable p entries e.1

variable (unicodeWord) in
/-- Without assertions all positions are of one kind. -/
theorem step_of_sound {w : Walk} (hw : w.Sound p entries) (before after : Option Char) (pos : Nat) :
    (w.step p unicodeWord entries [] before after pos).Sound p entries ∧
      (w.step p unicodeWord entries [] before after pos).column =
        columnAt p entries after pos w.column ∧
      (w.step p unicodeWord entries [] before after pos).ends =
        (columnAt p entries after pos w.column).getD p.start none :: w.ends := by
  unfold step
  simp only [List.filter_nil]
  cases hfind : w.cache.find? (fun e => e.1 == []) with
  | none =>
      refine ⟨fun e he => ?_, rfl, rfl⟩
      rcases List.mem_cons.1 he with rfl | he
      · rfl
      · exact hw e he
  | some e =>
      have hkey : e.1 = [] := by simpa using List.find?_some hfind
      have htable : e.2 = reachTable p entries [] := by
        rw [hw e (List.mem_of_find?_eq_some hfind), hkey]
      simp only [htable]
      exact ⟨hw, rfl, rfl⟩

/-- One walk has matches wherever another one has some: after the same instructions at the last
position, and somewhere if the other one has some anywhere. -/
structure Covers (w w' : Walk) : Prop where
  column : ColumnLe w.column w'.column
  ends : (∃ e ∈ w.ends, e.isSome) → ∃ e ∈ w'.ends, e.isSome

/-- **One character.** -/
theorem Covers.step {w w' : Walk} (h : w.Covers w') (hw : w.Sound p entries)
    (hw' : w'.Sound p entries) {after after' : Option Char}
    (hafter : ∀ c, after = some c → after' = some c) (before before' : Option Char)
    (pos pos' : Nat) :
    (w.step p unicodeWord entries [] before after pos).Covers
      (w'.step p unicodeWord entries [] before' after' pos') := by
  obtain ⟨-, hcolumn, hends⟩ := step_of_sound unicodeWord hw before after pos
  obtain ⟨-, hcolumn', hends'⟩ := step_of_sound unicodeWord hw' before' after' pos'
  have hle : ColumnLe (columnAt p entries after pos w.column)
      (columnAt p entries after' pos' w'.column) := columnLe_columnAt h.column hafter pos pos'
  refine ⟨by rwa [hcolumn, hcolumn'], ?_⟩
  rw [hends, hends']
  rintro ⟨e, he, hsome⟩
  rcases List.mem_cons.1 he with rfl | he
  · exact ⟨_, List.mem_cons_self .., hle p.start hsome⟩
  · obtain ⟨e', he', hsome'⟩ := h.ends ⟨e, he, hsome⟩
    exact ⟨e', List.mem_cons_of_mem _ he', hsome'⟩

/-- The walk behind the end of a text. -/
def blank (p : Program) : Walk := ⟨[], Array.replicate p.code.size none, []⟩

theorem sound_blank : (blank p).Sound p entries := by simp [Sound, blank]

/-- Behind the end of a text nothing matches. -/
theorem blank_covers (w : Walk) : (blank p).Covers w where
  column pc h := by
    by_cases hlt : pc < p.code.size <;> simp [blank, Array.getD_eq_getD_getElem?, hlt] at h
  ends := by simp [blank]

end Walk

/-- A walk is right about positions from its beginning on. -/
theorem sound_walk (before : Option Char) (pos : Nat) (text : List Char) :
    (walk p unicodeWord entries [] before pos text).Sound p entries := by
  induction text generalizing before pos with
  | nil => exact (Walk.step_of_sound unicodeWord Walk.sound_blank before none pos).1
  | cons c rest ih =>
      exact (Walk.step_of_sound unicodeWord (ih (some c) (pos + 1)) before (some c) pos).1

/-- What a walk knows about a position in front of a character. -/
theorem column_walk_cons (before : Option Char) (pos : Nat) (c : Char) (rest : List Char) :
    (walk p unicodeWord entries [] before pos (c :: rest)).column =
      columnAt p entries (some c) pos
        (walk p unicodeWord entries [] (some c) (pos + 1) rest).column :=
  (Walk.step_of_sound unicodeWord (sound_walk _ _ _) before (some c) pos).2.1

/-- What a walk knows about the end of a text. -/
theorem column_walk_nil (before : Option Char) (pos : Nat) :
    (walk p unicodeWord entries [] before pos []).column =
      columnAt p entries none pos (Walk.blank p).column :=
  (Walk.step_of_sound unicodeWord Walk.sound_blank before none pos).2.1

/-- The first end is that of the matches from the start of the program. -/
theorem mem_ends_walk (before : Option Char) (pos : Nat) (text : List Char) :
    (walk p unicodeWord entries [] before pos text).column.getD p.start none ∈
      (walk p unicodeWord entries [] before pos text).ends := by
  cases text <;> exact List.mem_cons_self ..

/-- **A whole text.** With more characters behind it, a text has matches where it had some. -/
theorem walk_covers (text more : List Char) (before before' : Option Char) (pos pos' : Nat) :
    (walk p unicodeWord entries [] before pos text).Covers
      (walk p unicodeWord entries [] before' pos' (text ++ more)) := by
  induction text generalizing before before' pos pos' with
  | nil =>
      -- at the end of the text nothing can be taken, so only what is accepted there counts
      have hafter : ∀ (after : Option Char) (c : Char), none = some c → after = some c := by simp
      cases more with
      | nil =>
          exact (Walk.blank_covers _).step Walk.sound_blank Walk.sound_blank (hafter none)
            before before' pos pos'
      | cons c rest =>
          exact (Walk.blank_covers _).step Walk.sound_blank (sound_walk _ _ _) (hafter (some c))
            before before' pos pos'
  | cons c rest ih =>
      exact (ih (some c) (some c) (pos + 1) (pos' + 1)).step (sound_walk _ _ _) (sound_walk _ _ _)
        (fun _ h => h) before before' pos pos'

/-- With more characters in front of it, a text has the matches that it had. -/
theorem exists_ends_walk_append (front text : List Char) (looks : List Look)
    (before : Option Char) (pos : Nat) :
    ∃ before' pos', (walk p unicodeWord entries looks before' pos' text).ends ⊆
      (walk p unicodeWord entries looks before pos (front ++ text)).ends := by
  induction front generalizing before pos with
  | nil => exact ⟨before, pos, List.Subset.refl _⟩
  | cons c front ih =>
      obtain ⟨before', pos', hsubset⟩ := ih (some c) (pos + 1)
      exact ⟨before', pos', fun e he => List.mem_cons_of_mem _ (hsubset he)⟩

/-- **What stands in a larger text is found there.** -/
theorem findAll_ne_nil_of_infix {r : Regex} {word text : List Char} (hr : r.Forbids word)
    (h : word <:+: text) : r.findAll text ≠ [] := by
  obtain ⟨hfree, hword⟩ := hr
  obtain ⟨front, back, rfl⟩ := h
  rw [findAll_ne_nil_iff] at hword ⊢
  simp only [ends, Program.ends, show looks r.program = [] from hfree] at hword ⊢
  rw [List.append_assoc]
  obtain ⟨before, pos, hsubset⟩ :=
    exists_ends_walk_append front (word ++ back) [] none 0
  obtain ⟨e, he, hsome⟩ := (walk_covers word back none before 0 pos).ends hword
  exact ⟨e, hsubset he, hsome⟩

end StandardsGate.Regex
