import StandardsGate.Proofs.Diff.Rendering

/-!
Reading a diff back.

The diff that git prints of some changes, without context, is read back as these changes: each file
in its place, and each added line under its number in the new file. Headings, removed lines and
notes may hold anything; only an added line must not look like the `+++ ` line of another file.

Main definitions:

* `Hunk.numbers` — the numbers of a hunk's added lines;
* `Change.WellFormed` — what is asked of a change;
* `Change.numberedLines` — the added lines of a change with their numbers.

Main results:

* `Change.readings_of_wellFormed` — what is read of a change;
* `Change.parse_render` — **reading undoes rendering**.
-/

namespace StandardsGate

open Text (Line)
open HunkHeader (numberLimit)

/-- The numbers of a hunk's added lines. -/
def Hunk.numbers (h : Hunk) : List Nat := List.range' h.start h.added.length

theorem Hunk.map_fst_numbered (start : Nat) (ls : List Line) :
    (Hunk.numbered start ls).map Prod.fst = List.range' start ls.length := by
  induction ls generalizing start with
  | nil => rfl
  | cons l ls ih =>
      rw [Hunk.numbered_cons, List.map_cons, ih]
      rfl

namespace Change

/-- What is asked of a change. -/
structure WellFormed (c : Change) : Prop where
  path : c.path.IsPath
  /-- The new ranges of the hunks are increasing and disjoint. -/
  ascending : c.hunks.Pairwise fun h k => ∀ i ∈ h.numbers, ∀ j ∈ k.numbers, i < j
  start_lt : ∀ h ∈ c.hunks, h.start < numberLimit
  fits : c.Fits
  /-- No added line looks like the `+++ ` line of another file. -/
  unforged : ∀ l ∈ c.addedLines, ¬ forgery <+: l.chars

/-- The added lines of a change with their numbers. -/
def numberedLines (c : Change) : List (Nat × String) :=
  c.hunks.flatMap fun h => Hunk.numbered h.start h.added

/-- Increasing ranges give no number twice. -/
theorem nodup_numberedLines {c : Change} (h : c.WellFormed) :
    (c.numberedLines.map Prod.fst).Nodup := by
  have hnumbers : c.numberedLines.map Prod.fst = c.hunks.flatMap Hunk.numbers := by
    unfold numberedLines
    rw [List.map_flatMap]
    exact List.flatMap_congr fun k _ => Hunk.map_fst_numbered k.start k.added
  -- a number comes once in its hunk, and the hunks' numbers are apart
  rw [hnumbers, List.nodup_flatMap]
  refine ⟨fun k _ => List.nodup_range', h.ascending.imp ?_⟩
  intro k l hkl i hi hj
  exact absurd (hkl i hi i hj) (Nat.lt_irrefl i)

/-- **What is read of a change** is its path and its numbered lines. -/
theorem readings_of_wellFormed {c : Change} (h : c.WellFormed) :
    Diff.readings c.patch.rawLines = [⟨c.path.text, some ⟨c.numberedLines, []⟩⟩] := by
  have hnone : ∀ l ∈ c.body.map Line.chars, Diff.pathOf? l = none := by
    rw [← List.filterMap_eq_nil_iff, filterMap_pathOf?_body, List.filterMap_eq_nil_iff]
    exact fun l hl => l.forgedPath?_eq_none_iff.2 (h.unforged l hl)
  have hlines : (c.hunks.flatMap fun k => k.edits.lines) = c.numberedLines := by
    refine List.flatMap_congr fun k hk => ?_
    rw [Hunk.edits, Hunk.firstNumber, if_pos (h.start_lt k hk)]
  have hbad : (c.hunks.flatMap fun k => k.edits.badHeaders) = [] := by
    refine List.flatMap_eq_nil_iff.2 fun k hk => ?_
    rw [Hunk.edits, if_pos (h.start_lt k hk)]
  rw [readings_patch, h.path.nameOf, Diff.readings, Diff.sections,
    Diff.cut_of_forall_none hnone, body, Hunk.readBody_flatMap h.fits, hlines, hbad]
  rfl

/-- The file that a change edits, with its added lines. -/
def toFile (c : Change) : EditedFile := (EditedFile.new c.path.text).registerAll c.numberedLines

/-- **Reading undoes rendering.** The diff of well-formed changes to distinct files has exactly
these files, in order, each with exactly its added lines under their numbers, and no malformed
hunk. -/
theorem parse_render {cs : List Change} (h : ∀ c ∈ cs, c.WellFormed)
    (hdistinct : (cs.map Change.path).Nodup) :
    ∃ d, Diff.parse (render cs) = .ok d ∧
      d.files.toList.map (fun f => (f.name, f.lines.entries)) =
        cs.map (fun c => (c.path.text, c.numberedLines)) ∧
      d.malformed = [] := by
  have hreadings : (cs.flatMap fun c => Diff.readings c.patch.rawLines) =
      cs.map fun c => ⟨c.path.text, some ⟨c.numberedLines, []⟩⟩ := by
    rw [List.flatMap_congr fun c hc => readings_of_wellFormed (h c hc), ← List.map_eq_flatMap]
  have hfiles : (cs.flatMap fun c => Diff.readings c.patch.rawLines).map Diff.Reading.toFile =
      cs.map toFile := by
    rw [hreadings, List.map_map]
    rfl
  have hnames : ((∅ : EditedFiles).names ++ (cs.map toFile).map EditedFile.name).Nodup := by
    have htexts : (cs.map toFile).map EditedFile.name = (cs.map Change.path).map Line.text := by
      simp [toFile, Function.comp_def]
    rw [htexts]
    exact hdistinct.map Line.text_injective
  refine ⟨_, parse_render_of_fits fun c hc => (h c hc).fits, ?_, ?_⟩
  · rw [hfiles, EditedFiles.toList_pushAll_of_nodup hnames]
    change ((cs.map toFile).map _) = _
    rw [List.map_map]
    refine List.map_congr_left fun c hc => ?_
    simp [toFile, EditedFile.entries_registerAll_new (nodup_numberedLines (h c hc))]
  · rw [hreadings]
    simp [Diff.Reading.malformed]

/-- What git prints of a file that stays where it is. -/
def notesHeader : List Line := [.first "index 1..2 100644"]

theorem plain_notesHeader : ∀ l ∈ notesHeader, l.IsPlain := by decide

/-- A change of a file with a space in its name, and with lines that look like headers. -/
def notes : Change where
  opening := .first "a/my notes b/my notes"
  header := notesHeader
  plain := plain_notesHeader
  source := .first "a/my notes\t"
  path := .first "my notes"
  hunks := [
    { oldStart := 4, start := 3, heading := .first " +7 @@ x"
      removed := [.first "++ b/x"], removedNote := none
      added := [.first "u", .first "@@ -1 +9 @@"], addedNote := none },
    { oldStart := 8, start := 9, heading := .first ""
      removed := [], removedNote := none
      added := [.first ""]
      addedNote := some (.first " No newline at end of file") }]

/-- A change that only removes a line. -/
def removal : Change where
  opening := .first "a/b/c.js b/b/c.js"
  header := notesHeader
  plain := plain_notesHeader
  source := .first "a/b/c.js"
  path := .first "b/c.js"
  hunks := [
    { oldStart := 1, start := 0, heading := .first ""
      removed := [.first "y"], removedNote := none, added := [], addedNote := none }]

theorem isPath_notes : notes.path.IsPath where
  noBackslash := by decide
  head := by
    intro c hc
    obtain rfl : 'm' = c := Option.some.inj hc
    rfl
  last := by
    intro c hc
    obtain rfl : 's' = c := Option.some.inj hc
    rfl

theorem isPath_removal : removal.path.IsPath where
  noBackslash := by decide
  head := by
    intro c hc
    obtain rfl : 'b' = c := Option.some.inj hc
    rfl
  last := by
    intro c hc
    obtain rfl : 's' = c := Option.some.inj hc
    rfl

theorem wellFormed_notes : notes.WellFormed where
  path := isPath_notes
  ascending := by decide
  start_lt := by decide
  fits := by unfold Fits; decide
  unforged := by decide

theorem wellFormed_removal : removal.WellFormed where
  path := isPath_removal
  ascending := by decide
  start_lt := by decide
  fits := by unfold Fits; decide
  unforged := by decide

theorem parse_render_notes :
    (∀ c ∈ [notes, removal], c.WellFormed) ∧ ([notes, removal].map Change.path).Nodup ∧
      render [notes, removal] =
        "diff --git a/my notes b/my notes\nindex 1..2 100644\n--- a/my notes\t\n" ++
          "+++ b/my notes\t\n@@ -4 +3,2 @@ +7 @@ x\n-++ b/x\n+u\n+@@ -1 +9 @@\n" ++
          "@@ -8,0 +9 @@\n+\n\\ No newline at end of file\n" ++
          "diff --git a/b/c.js b/b/c.js\nindex 1..2 100644\n--- a/b/c.js\n+++ b/b/c.js\n" ++
          "@@ -1 +0,0 @@\n-y\n" ∧
      ∃ d, Diff.parse (render [notes, removal]) = .ok d ∧
        d.files.toList.map (fun f => (f.name, f.lines.entries)) =
          [("my notes", [(3, "u"), (4, "@@ -1 +9 @@"), (9, "")]), ("b/c.js", [])] ∧
        d.malformed = [] := by
  have h : ∀ c ∈ [notes, removal], c.WellFormed := by
    simp [wellFormed_notes, wellFormed_removal]
  have hdistinct : ([notes, removal].map Change.path).Nodup := by decide
  exact ⟨h, hdistinct, by decide +kernel, parse_render h hdistinct⟩

end Change

end StandardsGate
