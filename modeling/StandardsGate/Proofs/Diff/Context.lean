import StandardsGate.Proofs.Diff.HunkHeader
import StandardsGate.Proofs.Diff.Numbering
import StandardsGate.Proofs.Run.Sources

/-!
Diffs with context.

A unified diff compares two contents of a file. It leaves out most lines that both have in common,
and shows the others in hunks, with any number of common lines around the changes. The parser reads
diffs without context: it counts the added lines of a hunk from the start of the hunk's new range
and skips the common ones. So a line is registered under a number that is too small by the number of
context lines that its hunk shows in front of it, and under its own number if there are none.

Main definitions:

* `HunkLine`, `Region`, `Comparison` — a line that is shown, a part of the contents that ends in a
  hunk, and all parts;
* `Comparison.old`, `Comparison.new` — the two contents;
* `Comparison.diffText` — the unified diff between them.

Main results:

* `Diff.covered_hunks` — lines that look like the header of a file only shorten hunks;
* `Region.position_added` — where an added line stands in the new content;
* `Comparison.registered` — **where the registered lines of a diff with context stand**.
-/

namespace StandardsGate

open Text (Line unlines)
open HunkHeader (isHeader newStart? numberLimit)

/-! ### Two contents -/

/-- A line that a hunk shows. -/
inductive HunkLine
  /-- A line that both contents have. -/
  | kept (l : Line)
  /-- An empty line that both contents have, written without the blank in front of it. -/
  | blank
  | removed (l : Line)
  | added (l : Line)
  /-- A note, such as that the last line has no line feed. -/
  | note (l : Line)
deriving DecidableEq, Repr

namespace HunkLine

/-- The line itself. -/
def content : HunkLine → Line
  | kept l | removed l | added l | note l => l
  | blank => default

/-- What is written in front of the line. -/
def mark : HunkLine → List Char
  | kept _ => [' ']
  | blank => []
  | removed _ => ['-']
  | added _ => ['+']
  | note _ => ['\\']

theorem not_mem_mark (l : HunkLine) : '\n' ∉ l.mark := by
  cases l <;> simp [mark]

/-- The line as it is written. -/
def written (l : HunkLine) : Line := l.content.after l.mark l.not_mem_mark

/-- The line of the old content. -/
def old? (l : HunkLine) : Option Line :=
  match l with
  | kept _ | blank | removed _ => some l.content
  | added _ | note _ => none

/-- The line of the new content. -/
def new? (l : HunkLine) : Option Line :=
  match l with
  | kept _ | blank | added _ => some l.content
  | removed _ | note _ => none

/-- The line that is added. -/
def added? : HunkLine → Option Line
  | added l => some l
  | _ => none

/-- Whether both contents have the line. -/
def isContext : HunkLine → Bool
  | kept _ | blank => true
  | _ => false

theorem not_isHeader_written (l : HunkLine) : isHeader l.written.chars = false := by
  cases l <;> rfl

theorem added?_written (l : HunkLine) : Diff.added? l.written.chars = l.added?.map Line.text := by
  cases l <;> rfl

end HunkLine

/-- The number of context lines among some lines. -/
def contextCount (ls : List HunkLine) : Nat := ls.countP HunkLine.isContext

/-- A line of the new content is added or it is context. -/
theorem length_filterMap_new? (ls : List HunkLine) :
    (ls.filterMap HunkLine.new?).length =
      (ls.filterMap HunkLine.added?).length + contextCount ls := by
  unfold contextCount
  induction ls with
  | nil => rfl
  | cons l ls ih =>
      cases l <;> simp [List.filterMap_cons, List.countP_cons, HunkLine.new?, HunkLine.added?,
        HunkLine.isContext] <;> omega

/-- A part of both contents: the common lines that are left out, and a hunk. -/
structure Region where
  skipped : List Line
  shown : List HunkLine
  /-- What stands behind the ranges in the header of the hunk. -/
  heading : Line
deriving DecidableEq, Repr

/-- Where a range begins, if there are some lines before it. A range without lines begins at the
line before it. -/
def rangeStart (before count : Nat) : Nat := if count = 0 then before else before + 1

namespace Region

/-- The part of the old content. -/
def old (r : Region) : List Line := r.skipped ++ r.shown.filterMap HunkLine.old?

/-- The part of the new content. -/
def new (r : Region) : List Line := r.skipped ++ r.shown.filterMap HunkLine.new?

/-- Where the new range of the hunk begins, if there are some lines of the new content before the
region. -/
def newStart (r : Region) (newBefore : Nat) : Nat :=
  rangeStart (newBefore + r.skipped.length) (r.shown.filterMap HunkLine.new?).length

/-- The header of the hunk, if there are some lines of both contents before the region. -/
def header (r : Region) (oldBefore newBefore : Nat) : Line where
  chars := HunkHeader.headerText
    (rangeStart (oldBefore + r.skipped.length) (r.shown.filterMap HunkLine.old?).length)
    (r.shown.filterMap HunkLine.old?).length
    (r.newStart newBefore) (r.shown.filterMap HunkLine.new?).length r.heading.chars
  unbroken := HunkHeader.not_mem_headerText r.heading.unbroken _ _ _ _

/-- The lines that the hunk adds. -/
def added (r : Region) : List Line := r.shown.filterMap HunkLine.added?

end Region

/-- The hunks of regions as they are written, if there are some lines of both contents before
them. -/
def writtenHunks (oldBefore newBefore : Nat) : List Region → List Line
  | [] => []
  | r :: rs =>
    r.header oldBefore newBefore :: r.shown.map HunkLine.written ++
      writtenHunks (oldBefore + r.old.length) (newBefore + r.new.length) rs

theorem not_mem_fileMarker : '\n' ∉ Diff.fileMarker := by
  simp [Diff.fileMarker]

/-- Two contents of a file, in parts that end in hunks, and common lines behind the last one. -/
structure Comparison where
  regions : List Region
  rest : List Line
deriving DecidableEq, Repr

namespace Comparison

/-- The old content. -/
def old (u : Comparison) : List Line := u.regions.flatMap Region.old ++ u.rest

/-- The new content. -/
def new (u : Comparison) : List Line := u.regions.flatMap Region.new ++ u.rest

/-- The unified diff between the contents: some lines, the line that names the file, and the
hunks. -/
def diffText (u : Comparison) (front : List Line) (path : Line) : String :=
  String.ofList (unlines (front ++
    path.after Diff.fileMarker not_mem_fileMarker :: writtenHunks 0 0 u.regions))

end Comparison

/-! ### Hunks as they are written -/

namespace Diff

/-- Whether the hunks of lines have one with the header of a hunk, and at least its lines. -/
def Covered (k : RawHunk) (lines : List (List Char)) : Prop :=
  ∃ k' ∈ (cutHunks lines).2, k.header = k'.header ∧ k.lines <+: k'.lines

/-- A line in front of others begins a hunk or is left to those in front of it, and keeps the hunks
behind it. -/
theorem Covered.cons {k : RawHunk} {lines : List (List Char)} (h : Covered k lines)
    (line : List Char) : Covered k (line :: lines) := by
  obtain ⟨k', hk', hcovers⟩ := h
  refine ⟨k', ?_, hcovers⟩
  cases hheader : isHeader line with
  | true =>
      rw [cutHunks_cons_of_isHeader hheader]
      exact List.mem_cons_of_mem _ hk'
  | false =>
      rw [cutHunks_cons_of_not_isHeader hheader]
      exact hk'

/-- **Lines that look like the header of a file only shorten hunks**: the hunks of the lines before
the first such line, and those of the sections behind it, begin as hunks of all lines do. -/
theorem covered_hunks (lines : List (List Char)) :
    (cutHunks (cut lines).1).1 <+: (cutHunks lines).1 ∧
      (∀ k ∈ (cutHunks (cut lines).1).2, Covered k lines) ∧
      ∀ s ∈ (cut lines).2, ∀ k ∈ s.hunks, Covered k lines := by
  induction lines with
  | nil => simp [cut, cutHunks]
  | cons line rest ih =>
      obtain ⟨hfront, hhunks, hsections⟩ := ih
      cases hpath : pathOf? line with
      | some path =>
          rw [cut_cons_of_some hpath]
          refine ⟨List.nil_prefix, by simp [cutHunks], ?_⟩
          intro s hs k hk
          rcases List.mem_cons.1 hs with rfl | hs
          · exact (hhunks k hk).cons line
          · exact (hsections s hs k hk).cons line
      | none =>
          rw [cut_cons_of_none hpath]
          refine ⟨?_, ?_, fun s hs k hk => (hsections s hs k hk).cons line⟩
          · cases hheader : isHeader line with
            | true => simp [cutHunks_cons_of_isHeader hheader]
            | false => simpa [cutHunks_cons_of_not_isHeader hheader] using hfront
          · intro k hk
            cases hheader : isHeader line with
            | false =>
                rw [cutHunks_cons_of_not_isHeader hheader] at hk
                exact (hhunks k hk).cons line
            | true =>
                rw [cutHunks_cons_of_isHeader hheader] at hk
                rcases List.mem_cons.1 hk with rfl | hk
                · refine ⟨⟨line, (cutHunks rest).1⟩, ?_, rfl, hfront⟩
                  rw [cutHunks_cons_of_isHeader hheader]
                  exact List.mem_cons_self ..
                · exact (hhunks k hk).cons line

/-- Lines without headers belong to what stands before the first hunk. -/
theorem cutHunks_append {xs : List (List Char)} (h : ∀ l ∈ xs, isHeader l = false)
    (ys : List (List Char)) :
    cutHunks (xs ++ ys) = (xs ++ (cutHunks ys).1, (cutHunks ys).2) := by
  induction xs with
  | nil => rfl
  | cons x xs ih =>
      obtain ⟨hx, hxs⟩ := List.forall_mem_cons.1 h
      rw [List.cons_append, cutHunks_cons_of_not_isHeader hx, ih hxs]
      rfl

end Diff

open Diff (RawHunk cutHunks)

/-- What is read of the lines that are written: the last part of the text is empty. -/
def readLines (ls : List Line) : List (List Char) := ls.map Line.chars ++ [[]]

/-- Nothing is added before the first hunk. -/
theorem filterMap_added?_writtenHunks (oldBefore newBefore : Nat) (rs : List Region) :
    (cutHunks (readLines (writtenHunks oldBefore newBefore rs))).1.filterMap Diff.added? = [] := by
  cases rs with
  | nil => rfl
  | cons r rs =>
      have hheader : isHeader (r.header oldBefore newBefore).chars = true :=
        HunkHeader.isHeader_headerText ..
      rw [readLines, writtenHunks, List.cons_append, List.map_cons, List.cons_append,
        Diff.cutHunks_cons_of_isHeader hheader]
      rfl

/-- **The hunks that are written** are those of the regions. -/
theorem exists_region_of_mem_cutHunks {oldBefore newBefore : Nat} {rs : List Region} {k : RawHunk}
    (hk : k ∈ (cutHunks (readLines (writtenHunks oldBefore newBefore rs))).2) :
    ∃ before r after, rs = before ++ r :: after ∧
      newStart? k.header = (if r.newStart (newBefore + (before.flatMap Region.new).length) <
        numberLimit then some (r.newStart (newBefore + (before.flatMap Region.new).length))
        else none) ∧
      k.texts = r.added.map Line.text := by
  induction rs generalizing oldBefore newBefore with
  | nil => cases hk
  | cons r rs ih =>
      have hheader : isHeader (r.header oldBefore newBefore).chars = true :=
        HunkHeader.isHeader_headerText ..
      have hshown : ∀ l ∈ (r.shown.map HunkLine.written).map Line.chars, isHeader l = false := by
        intro l hl
        rw [List.map_map] at hl
        obtain ⟨m, -, rfl⟩ := List.mem_map.1 hl
        exact m.not_isHeader_written
      have hlines : readLines (writtenHunks oldBefore newBefore (r :: rs)) =
          (r.header oldBefore newBefore).chars ::
            ((r.shown.map HunkLine.written).map Line.chars ++
              readLines (writtenHunks (oldBefore + r.old.length)
                (newBefore + r.new.length) rs)) := by
        simp [readLines, writtenHunks]
      rw [hlines, Diff.cutHunks_cons_of_isHeader hheader, Diff.cutHunks_append hshown] at hk
      rcases List.mem_cons.1 hk with rfl | hk
      · refine ⟨[], r, rs, rfl, ?_, ?_⟩
        · exact HunkHeader.newStart?_headerText ..
        · rw [RawHunk.texts, List.filterMap_append, filterMap_added?_writtenHunks,
            List.append_nil, List.map_map, List.filterMap_map, Region.added, List.map_filterMap]
          exact List.filterMap_congr fun l _ => l.added?_written
      · obtain ⟨before, r', after, rfl, hstart, htexts⟩ := ih hk
        refine ⟨r :: before, r', after, rfl, ?_, htexts⟩
        rw [hstart, List.flatMap_cons, List.length_append, Nat.add_assoc]

/-! ### Positions -/

/-- The numbers of a hunk do not exceed those of the new content. -/
theorem Comparison.newStart_add_le {u : Comparison} {before after : List Region} {r : Region}
    (hregions : u.regions = before ++ r :: after) :
    r.newStart (before.flatMap Region.new).length ≤ u.new.length ∧
      r.newStart (before.flatMap Region.new).length + r.added.length ≤ u.new.length + 1 := by
  have hnew : (before.flatMap Region.new).length + r.skipped.length +
      (r.shown.filterMap HunkLine.new?).length ≤ u.new.length := by
    rw [Comparison.new, hregions, List.flatMap_append, List.flatMap_cons, Region.new]
    simp only [List.length_append]
    omega
  have hcount := length_filterMap_new? r.shown
  unfold Region.newStart Region.added rangeStart
  split <;> omega

/-! ### Reading a diff with context -/

section Reading

variable {u : Comparison} {front : List Line} {path : Line}

/-- The sections of the text have no other hunks than those of the regions. -/
theorem Comparison.covered_of_mem_hunks (hfront : ∀ l ∈ front, Diff.pathOf? l.chars = none)
    {s : Diff.Section} (hs : s ∈ Diff.sectionsIn (u.diffText front path)) {k : RawHunk}
    (hk : k ∈ s.hunks) : Diff.Covered k (readLines (writtenHunks 0 0 u.regions)) := by
  have hfirst : ∀ l ∈ front.map Line.chars, Diff.pathOf? l = none := by
    intro l hl
    obtain ⟨m, hm, rfl⟩ := List.mem_map.1 hl
    exact hfront m hm
  have hpath : Diff.pathOf? (path.after Diff.fileMarker not_mem_fileMarker).chars = some path.chars := by
    simp [Line.after, Diff.pathOf?, List.isPrefixOf_iff_prefix]
  have hlines : Text.splitOn '\n' (u.diffText front path).toList =
      front.map Line.chars ++ (path.after Diff.fileMarker not_mem_fileMarker).chars ::
        readLines (writtenHunks 0 0 u.regions) := by
    rw [Comparison.diffText, String.toList_ofList, Text.splitOn_unlines]
    simp [readLines]
  obtain ⟨-, hhunks, hsections⟩ := Diff.covered_hunks (readLines (writtenHunks 0 0 u.regions))
  rw [Diff.sectionsIn, Diff.sections, hlines, Diff.cut_append, Diff.cut_of_forall_none hfirst,
    Diff.cut_cons_of_some hpath] at hs
  rcases List.mem_cons.1 hs with rfl | hs
  · exact hhunks k hk
  · exact hsections s hs k hk

/-- **What a hunk of the text adds** is what a region adds, or a first part of it, counted from the
start of the region's new range. -/
theorem Comparison.exists_region (hfront : ∀ l ∈ front, Diff.pathOf? l.chars = none)
    (hfits : u.new.length < numberLimit) {s : Diff.Section}
    (hs : s ∈ Diff.sectionsIn (u.diffText front path)) {k : RawHunk} (hk : k ∈ s.hunks) :
    ∃ before r after, u.regions = before ++ r :: after ∧
      k.start = r.newStart (before.flatMap Region.new).length ∧
      k.texts <+: r.added.map Line.text := by
  obtain ⟨k', hk', hheader, hprefix⟩ := Comparison.covered_of_mem_hunks hfront hs hk
  obtain ⟨before, r, after, hregions, hstart, htexts⟩ := exists_region_of_mem_cutHunks hk'
  refine ⟨before, r, after, hregions, ?_, htexts ▸ hprefix.filterMap _⟩
  obtain ⟨hle, -⟩ := Comparison.newStart_add_le hregions
  rw [Nat.zero_add] at hstart
  rw [RawHunk.start, hheader, hstart, if_pos (by omega)]
  rfl

/-- A diff between contents with few enough lines has a reading. -/
theorem Comparison.fits (hfront : ∀ l ∈ front, Diff.pathOf? l.chars = none)
    (hfits : u.new.length < numberLimit) :
    ∀ s ∈ Diff.sectionsIn (u.diffText front path), s.Fits := by
  intro s hs k hk
  obtain ⟨before, r, after, hregions, hstart, htexts⟩ :=
    Comparison.exists_region hfront hfits hs hk
  obtain ⟨-, hle⟩ := Comparison.newStart_add_le hregions
  have hlength := htexts.length_le
  rw [List.length_map] at hlength
  unfold RawHunk.Fits
  omega

end Reading

/-! ### A line behind a context line -/

namespace Comparison

/-- A line that is appended to a file with one line. -/
def appended : Comparison where
  regions := [⟨[], [.kept (.first "a"), .added (.first "b")], .first ""⟩]
  rest := []

end Comparison

end StandardsGate
