import StandardsGate.Proofs.Diff.Reading

/-!
The hunks of a section.

A section is cut at its hunk headers, as a diff is cut at the lines that name files. What stands
before the first header does not count. The added lines of a hunk are counted from the number that
its header gives, or from 0.

Main definitions:

* `Diff.RawHunk`, `Diff.cutHunks` — the hunks of lines;
* `Diff.Section.additions` — the added lines of a section with their numbers, hunk by hunk;
* `Diff.Section.addedTexts` — the texts of the lines behind the first header that begin with a plus
  sign.

Main results:

* `Diff.readBody_eq` — **what a section says**: the added lines of its hunks and the headers that
  give no number, unless a number gets too large;
* `Diff.Section.map_snd_additions` — **the hunks leave out no added line**.
-/

namespace StandardsGate.Diff

open HunkHeader (isHeader newStart? numberLimit)

/-- A hunk as it is written: its header, and the lines up to the next one. -/
structure RawHunk where
  header : List Char
  lines : List (List Char)
deriving DecidableEq, Repr

/-- The lines before the first hunk, and the hunks. -/
def cutHunks : List (List Char) → List (List Char) × List RawHunk
  | [] => ([], [])
  | line :: rest =>
    let later := cutHunks rest
    if isHeader line then ([], ⟨line, later.1⟩ :: later.2) else (line :: later.1, later.2)

/-- The text of an added line. -/
def added? : List Char → Option String
  | '+' :: text => some (String.ofList text)
  | _ => none

/-- The added lines among some lines, counted from a number. -/
def countedFrom (start : Nat) (lines : List (List Char)) : List (Nat × String) :=
  ((lines.filterMap added?).zipIdx start).map Prod.swap

/-- Where the counting of a hunk's added lines begins. -/
def RawHunk.start (h : RawHunk) : Nat := (newStart? h.header).getD 0

/-- The added lines of a hunk with their numbers. -/
def RawHunk.added (h : RawHunk) : List (Nat × String) := countedFrom h.start h.lines

/-- The added lines of lines with their numbers; `next` is the number of the next added line, once a
hunk has begun. -/
def additionsFrom (next : Option Nat) (lines : List (List Char)) : List (Nat × String) :=
  (next.elim [] fun start => countedFrom start (cutHunks lines).1) ++
    (cutHunks lines).2.flatMap RawHunk.added

/-- The headers that give no number. -/
def badHeaders (lines : List (List Char)) : List String :=
  (lines.filter fun line => isHeader line && (newStart? line).isNone).map String.ofList

/-- The added lines of a section with their numbers, hunk by hunk. -/
def Section.additions (s : Section) : List (Nat × String) :=
  (cutHunks s.body).2.flatMap RawHunk.added

/-- The texts of the lines that begin with a plus sign and stand behind a hunk header. -/
def Section.addedTexts (s : Section) : List String :=
  (s.body.dropWhile fun line => !isHeader line).filterMap added?

/-! ### Counting -/

@[simp] theorem countedFrom_nil (start : Nat) : countedFrom start [] = [] := rfl

theorem countedFrom_cons_of_some {line : List Char} {text : String} (h : added? line = some text)
    (start : Nat) (rest : List (List Char)) :
    countedFrom start (line :: rest) = (start, text) :: countedFrom (start + 1) rest := by
  simp [countedFrom, h]

theorem countedFrom_cons_of_none {line : List Char} (h : added? line = none) (start : Nat)
    (rest : List (List Char)) : countedFrom start (line :: rest) = countedFrom start rest := by
  simp [countedFrom, h]

theorem map_snd_countedFrom (start : Nat) (lines : List (List Char)) :
    (countedFrom start lines).map Prod.snd = lines.filterMap added? := by
  simp [countedFrom, Function.comp_def]

/-! ### One line -/

theorem added?_eq_none_iff {line : List Char} :
    added? line = none ↔ ∀ text, line ≠ '+' :: text := by
  constructor
  · rintro h text rfl
    cases h
  · intro h
    unfold added?
    split
    · exact absurd rfl (h _)
    · rfl

/-- A header is no added line. -/
theorem added?_of_isHeader {line : List Char} (h : isHeader line = true) : added? line = none := by
  rw [added?_eq_none_iff]
  rintro text rfl
  cases h

theorem cutHunks_cons_of_isHeader {line : List Char} (h : isHeader line = true)
    (rest : List (List Char)) :
    cutHunks (line :: rest) = ([], ⟨line, (cutHunks rest).1⟩ :: (cutHunks rest).2) := by
  simp [cutHunks, h]

theorem cutHunks_cons_of_not_isHeader {line : List Char} (h : isHeader line = false)
    (rest : List (List Char)) :
    cutHunks (line :: rest) = (line :: (cutHunks rest).1, (cutHunks rest).2) := by
  simp [cutHunks, h]

/-- A header begins a new count. -/
theorem additionsFrom_header {line : List Char} (h : isHeader line = true) (next : Option Nat)
    (rest : List (List Char)) :
    additionsFrom next (line :: rest) = additionsFrom (some ((newStart? line).getD 0)) rest := by
  cases next <;> simp [additionsFrom, cutHunks_cons_of_isHeader h, RawHunk.added, RawHunk.start]

/-- An added line of a hunk is counted. -/
theorem additionsFrom_added (text : List Char) (start : Nat) (rest : List (List Char)) :
    additionsFrom (some start) (('+' :: text) :: rest) =
      (start, String.ofList text) :: additionsFrom (some (start + 1)) rest := by
  rw [additionsFrom, cutHunks_cons_of_not_isHeader rfl]
  simp [countedFrom_cons_of_some (show added? ('+' :: text) = some (String.ofList text) from rfl),
    additionsFrom]

/-- Before the first hunk, and for a line that is not added, nothing is counted. -/
theorem additionsFrom_cons {line : List Char} (h : isHeader line = false) {next : Option Nat}
    (hnext : next = none ∨ added? line = none) (rest : List (List Char)) :
    additionsFrom next (line :: rest) = additionsFrom next rest := by
  rw [additionsFrom, cutHunks_cons_of_not_isHeader h]
  rcases hnext with rfl | hadded
  · rfl
  · cases next <;> simp [additionsFrom, countedFrom_cons_of_none, hadded]

/-! ### What a section says -/

/-- **What lines of a section say**: the added lines of the hunks and the headers that give no
number, unless a number gets too large. -/
theorem readBody_eq (next : Option Nat) (lines : List (List Char)) :
    readBody next lines =
      if ∀ l ∈ additionsFrom next lines, l.1 < numberLimit then
        some ⟨additionsFrom next lines, badHeaders lines⟩
      else none := by
  induction lines generalizing next with
  | nil => cases next <;> rfl
  | cons line rest ih =>
      rw [readBody.eq_def]
      cases hheader : isHeader line with
      | true =>
          rw [additionsFrom_header hheader]
          cases hstart : newStart? line with
          | some start => simpa [badHeaders, hheader, hstart] using ih (some start)
          | none =>
              simp only [if_true, ih, Option.getD_none, badHeaders, List.filter_cons, hheader,
                hstart, Option.isNone_none, Bool.and_true, List.map_cons]
              split <;> rfl
      | false =>
          have hbad : badHeaders (line :: rest) = badHeaders rest := by simp [badHeaders, hheader]
          by_cases hplus : ∃ text, line = '+' :: text
          · obtain ⟨text, rfl⟩ := hplus
            cases next with
            | none =>
                rw [additionsFrom_cons hheader (Or.inl rfl), hbad]
                exact ih none
            | some number =>
                -- the number of the line is looked at before those of the lines behind it
                simp only [hheader, Bool.false_eq_true, if_false, additionsFrom_added,
                  List.forall_mem_cons, hbad, ih]
                by_cases hlt : number < numberLimit
                · simp only [hlt, if_true, true_and]
                  split <;> rfl
                · simp [hlt]
          · have hother : ∀ text, line ≠ '+' :: text := fun text h => hplus ⟨text, h⟩
            rw [additionsFrom_cons hheader (Or.inr (added?_eq_none_iff.2 hother)), hbad, ← ih]
            simp [hheader, hother]

/-- What a section says. -/
theorem Section.edits_eq {s : Section} {e : Edits} (h : readBody none s.body = some e) :
    e.lines = s.additions := by
  rw [readBody_eq] at h
  split at h
  · cases h
    rfl
  · cases h

/-! ### What the hunks hold -/

/-- Each added line stands before the first header or in a hunk. -/
theorem filterMap_added?_cutHunks (lines : List (List Char)) :
    (cutHunks lines).1.filterMap added? ++
        (cutHunks lines).2.flatMap (fun h => h.lines.filterMap added?) =
      lines.filterMap added? := by
  induction lines with
  | nil => rfl
  | cons line rest ih =>
      cases h : isHeader line with
      | true =>
          rw [cutHunks_cons_of_isHeader h, List.filterMap_cons_none (added?_of_isHeader h), ← ih]
          rfl
      | false =>
          rw [cutHunks_cons_of_not_isHeader h]
          cases ha : added? line <;> simp [ha, ih]

/-- What stands in the hunks is what stands behind the first header. -/
theorem filterMap_added?_dropWhile (lines : List (List Char)) :
    (lines.dropWhile fun line => !isHeader line).filterMap added? =
      (cutHunks lines).2.flatMap fun h => h.lines.filterMap added? := by
  induction lines with
  | nil => rfl
  | cons line rest ih =>
      cases h : isHeader line with
      | true =>
          rw [List.dropWhile_cons_of_neg (by simp [h]), cutHunks_cons_of_isHeader h,
            List.filterMap_cons_none (added?_of_isHeader h), ← filterMap_added?_cutHunks]
          rfl
      | false =>
          rw [List.dropWhile_cons_of_pos (by simp [h]), cutHunks_cons_of_not_isHeader h, ih]

/-- **The hunks leave out no added line.** -/
theorem Section.map_snd_additions (s : Section) : s.additions.map Prod.snd = s.addedTexts := by
  unfold additions addedTexts
  rw [List.map_flatMap, filterMap_added?_dropWhile]
  simp only [RawHunk.added, map_snd_countedFrom]

end StandardsGate.Diff
