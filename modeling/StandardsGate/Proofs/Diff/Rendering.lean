import StandardsGate.Proofs.Diff.HunkHeader
import StandardsGate.Proofs.Diff.Reading
import StandardsGate.Proofs.Text.Blank
import Mathlib.Data.List.Induction

/-!
Diffs as git prints them.

A diff is a sequence of patches, one for each file. A patch begins with a `diff --git ` line and
some header lines; if the content of the file changes, a line that begins with `+++ ` names the file
as it is after the change, and hunks stand behind it. Without context a hunk is a header, the
removed lines and the added lines.

Main definitions:

* `Patch`, `Patch.lines` — a file's part of a diff, whatever stands behind its `+++ ` line;
* `Hunk`, `Hunk.lines` — a hunk without context;
* `Change`, `Change.patch` — a change of a file's content, and its patch.

Main results:

* `Patch.cut_of_file`, `Patch.cut_of_foreign` — what the parser takes from a patch, and what it
  leaves to others;
* `Patch.readings_flatMap` — patches that name their files do not disturb each other;
* `Hunk.readBody_lines` — **what a hunk says**: its added lines, numbered from its start.
-/

namespace StandardsGate

open Text (Line unlines)
open HunkHeader (numberLimit)

/-! ### Patches -/

/-- Whether a line begins neither with a plus sign nor with two at signs. All lines that git prints
in front of a `+++ ` line are of this kind. -/
def Text.Line.IsPlain (l : Line) : Prop := ¬ ['+'] <+: l.chars ∧ ¬ ['@', '@'] <+: l.chars

instance (l : Line) : Decidable l.IsPlain := inferInstanceAs (Decidable (_ ∧ _))

theorem Text.Line.IsPlain.role {l : Line} (h : l.IsPlain) : Diff.role l.chars = .idle := by
  refine Diff.role_idle ?_ fun text htext => h.1 ⟨text, htext.symm⟩
  rw [← Bool.not_eq_true, HunkHeader.isHeader, List.isPrefixOf_iff_prefix]
  exact h.2

/-- What the `+++ ` line of a patch names. -/
inductive Target
  /-- A file, by its path. -/
  | file (path : Line)
  /-- A file, by its path in quotes; what stands behind `"b/` in the line. -/
  | quoted (name : Line)
  /-- No file, since the file is removed. -/
  | nothing
deriving DecidableEq, Repr

/-- The `+++ ` line of a patch. -/
def Target.line : Target → Line
  | file path => path.after Diff.fileMarker (by decide)
  | quoted name => name.after ['+', '+', '+', ' ', '"', 'b', '/'] (by decide)
  | nothing => ⟨['+', '+', '+', ' ', '/', 'd', 'e', 'v', '/', 'n', 'u', 'l', 'l'], by decide⟩

/-- A file's part of a diff. -/
structure Patch where
  /-- What stands behind `diff --git ` in the first line. -/
  opening : Line
  /-- The lines behind the first one and in front of the `+++ ` line. -/
  header : List Line
  plain : ∀ l ∈ header, l.IsPlain
  /-- What the `+++ ` line names, and the lines behind it. -/
  content : Option (Target × List Line)

namespace Patch

/-- The first line of a patch. -/
def openingLine (p : Patch) : Line :=
  p.opening.after ['d', 'i', 'f', 'f', ' ', '-', '-', 'g', 'i', 't', ' '] (by decide)

/-- The lines of a patch. -/
def lines (p : Patch) : List Line :=
  p.openingLine :: p.header ++
    match p.content with
    | some (target, body) => target.line :: body
    | none => []

/-- The text of a patch. -/
def text (p : Patch) : String := String.ofList (unlines p.lines)

/-- The text of patches, one behind the other. -/
def textAll (ps : List Patch) : String := String.ofList (unlines (ps.flatMap lines))

/-- The lines of a patch as the parser gets them. -/
def rawLines (p : Patch) : List (List Char) := p.lines.map Line.chars

theorem role_openingLine (p : Patch) : Diff.role p.openingLine.chars = .idle := rfl

/-- The lines in front of the `+++ ` line are idle. -/
theorem role_header (p : Patch) :
    ∀ l ∈ (p.openingLine :: p.header).map Line.chars, Diff.role l = .idle := by
  intro l hl
  obtain ⟨m, hm, rfl⟩ := List.mem_map.1 hl
  rcases List.mem_cons.1 hm with rfl | hm
  · exact p.role_openingLine
  · exact (p.plain m hm).role

/-- Whether the `+++ ` line of a patch does not name a file the way the parser looks for. -/
def IsForeign (p : Patch) : Prop :=
  ∃ target body, p.content = some (target, body) ∧ ∀ path, target ≠ .file path

theorem rawLines_of_none {p : Patch} (h : p.content = none) :
    p.rawLines = (p.openingLine :: p.header).map Line.chars := by
  simp [rawLines, lines, h]

theorem rawLines_of_some {p : Patch} {target : Target} {body : List Line}
    (h : p.content = some (target, body)) :
    p.rawLines = (p.openingLine :: p.header).map Line.chars ++
      target.line.chars :: body.map Line.chars := by
  simp [rawLines, lines, h]

theorem cut_header_append (p : Patch) (rest : List (List Char)) :
    Diff.cut ((p.openingLine :: p.header).map Line.chars ++ rest) =
      ((p.openingLine :: p.header).map Line.chars ++ (Diff.cut rest).1, (Diff.cut rest).2) := by
  have hnone : ∀ l ∈ (p.openingLine :: p.header).map Line.chars, Diff.pathOf? l = none :=
    fun l hl => Diff.pathOf?_of_idle (p.role_header l hl)
  rw [Diff.cut_append, Diff.cut_of_forall_none hnone]
  simp [Diff.extendLast]

/-- A patch without a `+++ ` line is left to others as a whole. -/
theorem cut_of_none {p : Patch} (h : p.content = none) :
    Diff.cut p.rawLines = ((p.openingLine :: p.header).map Line.chars, []) := by
  rw [rawLines_of_none h]
  simpa [Diff.cut] using p.cut_header_append []

/-- A patch that names its file leaves only its header to others. -/
theorem cut_of_file {p : Patch} {path : Line} {body : List Line}
    (h : p.content = some (.file path, body)) :
    Diff.cut p.rawLines =
      ((p.openingLine :: p.header).map Line.chars,
        ⟨path.chars, (Diff.cut (body.map Line.chars)).1⟩ ::
          (Diff.cut (body.map Line.chars)).2) := by
  have hpath : Diff.pathOf? (Target.file path).line.chars = some path.chars := by
    simp [Target.line, Line.after, Diff.pathOf?, List.isPrefixOf_iff_prefix]
  rw [rawLines_of_some h, cut_header_append, Diff.cut_cons_of_some hpath, List.append_nil]

/-- A foreign patch leaves its `+++ ` line to others too, and what stands behind it. -/
theorem cut_of_foreign {p : Patch} {target : Target} {body : List Line}
    (h : p.content = some (target, body)) (hforeign : ∀ path, target ≠ .file path) :
    Diff.cut p.rawLines =
      ((p.openingLine :: p.header).map Line.chars ++
        target.line.chars :: (Diff.cut (body.map Line.chars)).1,
        (Diff.cut (body.map Line.chars)).2) := by
  have hpath : Diff.pathOf? target.line.chars = none := by
    cases target with
    | file path => exact absurd rfl (hforeign path)
    | quoted name => rfl
    | nothing => rfl
  rw [rawLines_of_some h, cut_header_append, Diff.cut_cons_of_none hpath]

/-- Unless a patch is foreign, it leaves only idle lines to others. -/
theorem role_of_mem_cut {p : Patch} (h : ¬ p.IsForeign) :
    ∀ l ∈ (Diff.cut p.rawLines).1, Diff.role l = .idle := by
  cases hc : p.content with
  | none =>
      rw [cut_of_none hc]
      exact p.role_header
  | some content =>
      obtain ⟨target, body⟩ := content
      cases target with
      | file path =>
          rw [cut_of_file hc]
          exact p.role_header
      | quoted name => exact absurd ⟨_, _, hc, by simp⟩ h
      | nothing => exact absurd ⟨_, _, hc, by simp⟩ h

/-- **Patches that are not foreign do not disturb each other.** -/
theorem readings_flatMap {ps : List Patch} (h : ∀ p ∈ ps, ¬ p.IsForeign) :
    Diff.readings (ps.flatMap rawLines) = ps.flatMap fun p => Diff.readings p.rawLines := by
  -- the last patch is split off, since it is the one whose lines go to those in front of it
  induction ps using List.reverseRecOn with
  | nil => rfl
  | append_singleton ps p ih =>
      have hp : ¬ p.IsForeign := h p (by simp)
      rw [List.flatMap_append, List.flatMap_append, List.flatMap_singleton,
        List.flatMap_singleton, Diff.readings_append_of_idle (role_of_mem_cut hp),
        ih fun q hq => h q (by simp [hq])]

end Patch

/-! ### Hunks without context -/

/-- A hunk without context. -/
structure Hunk where
  /-- Where the removed lines begin in the old file. -/
  oldStart : Nat
  /-- Where the added lines begin in the new file. -/
  start : Nat
  /-- What stands behind the ranges in the header. -/
  heading : Line
  removed : List Line
  /-- What is noted behind the removed lines, such as that the last one has no line feed. -/
  removedNote : Option Line
  added : List Line
  /-- What is noted behind the added lines. -/
  addedNote : Option Line

/-- The line of a note. -/
def noteLines (note : Option Line) : List Line :=
  note.toList.map (Line.after ['\\'] (by decide))

/-- What an added line begins with that is taken for the `+++ ` line of another file. -/
def forgery : List Char := ['+', '+', ' ', 'b', '/']

/-- The path of the file that an added line is taken to name, if it is. -/
def Text.Line.forgedPath? (l : Line) : Option (List Char) := Diff.pathOf? ('+' :: l.chars)

theorem Text.Line.forgedPath?_eq_none_iff (l : Line) :
    l.forgedPath? = none ↔ ¬ forgery <+: l.chars := by
  simp [forgedPath?, Diff.pathOf?, Diff.fileMarker, forgery, List.isPrefixOf_iff_prefix]

namespace Hunk

/-- The header of a hunk. -/
def header (h : Hunk) : Line where
  chars := HunkHeader.headerText h.oldStart h.removed.length h.start h.added.length h.heading.chars
  unbroken := HunkHeader.not_mem_headerText h.heading.unbroken _ _ _ _

/-- The lines of a hunk. -/
def lines (h : Hunk) : List Line :=
  h.header :: (h.removed.map (Line.after ['-'] (by decide)) ++ noteLines h.removedNote ++
    h.added.map (Line.after ['+'] (by decide)) ++ noteLines h.addedNote)

/-- Added lines with their numbers. -/
def numbered (start : Nat) (ls : List Line) : List (Nat × String) :=
  ls.mapIdx fun i l => (start + i, String.ofList l.chars)

theorem numbered_cons (start : Nat) (l : Line) (ls : List Line) :
    numbered start (l :: ls) = (start, String.ofList l.chars) :: numbered (start + 1) ls := by
  simp [numbered, List.mapIdx_cons, Nat.add_assoc, Nat.add_comm 1]

/-- The number of a hunk's first added line: the start, or 0 if the start is too large. -/
def firstNumber (h : Hunk) : Nat := if h.start < numberLimit then h.start else 0

/-- What a hunk says. -/
def edits (h : Hunk) : Diff.Edits where
  lines := numbered h.firstNumber h.added
  badHeaders := if h.start < numberLimit then [] else [String.ofList h.header.chars]

theorem role_header (h : Hunk) :
    Diff.role h.header.chars =
      .header (if h.start < numberLimit then some h.start else none) := by
  have hheader : HunkHeader.isHeader h.header.chars = true :=
    HunkHeader.isHeader_headerText _ _ _ _ _
  rw [Diff.role_of_isHeader hheader]
  exact congrArg _ (HunkHeader.newStart?_headerText _ _ _ _ _)

theorem role_removed {l : List Char} (ls : List Line)
    (h : l ∈ (ls.map (Line.after ['-'] (by decide))).map Line.chars) : Diff.role l = .idle := by
  simp only [List.map_map, List.mem_map] at h
  obtain ⟨m, -, rfl⟩ := h
  rfl

theorem role_note {l : List Char} (note : Option Line)
    (h : l ∈ (noteLines note).map Line.chars) : Diff.role l = .idle := by
  simp only [noteLines, List.map_map, List.mem_map] at h
  obtain ⟨m, -, rfl⟩ := h
  rfl

/-- Added lines are registered under the numbers that follow each other. -/
theorem readBody_added {start : Nat} {ls : List Line} (h : start + ls.length ≤ numberLimit) :
    Diff.readBody (some start) ((ls.map (Line.after ['+'] (by decide))).map Line.chars) =
      some ⟨numbered start ls, []⟩ := by
  induction ls generalizing start with
  | nil => rfl
  | cons l ls ih =>
      simp only [List.length_cons] at h
      have hlt : start < numberLimit := by omega
      have hline : Diff.role (Line.after ['+'] (by decide) l).chars = .added l.chars := rfl
      rw [List.map_cons, List.map_cons, Diff.readBody_cons]
      simp only [Diff.readLine, Diff.numberAfter, hline, hlt, if_true, Option.map_some]
      rw [ih (by omega), numbered_cons]
      rfl

/-- **What a hunk says**: its added lines, numbered from its start on. -/
theorem readBody_lines {h : Hunk} (fits : h.start + h.added.length ≤ numberLimit)
    (next : Option Nat) : Diff.readBody next (h.lines.map Line.chars) = some h.edits := by
  have hstart : h.firstNumber + h.added.length ≤ numberLimit := by
    unfold firstNumber
    split <;> omega
  -- removed lines and notes are idle, so only the added lines are left to be read
  have hbefore : ∀ l ∈ (h.removed.map (Line.after ['-'] (by decide)) ++
      noteLines h.removedNote).map Line.chars, Diff.role l = .idle := by
    intro l hl
    rw [List.map_append, List.mem_append] at hl
    exact hl.elim (role_removed _) (role_note _)
  have hrest : ∀ number, Diff.readBody number
      ((h.removed.map (Line.after ['-'] (by decide)) ++ noteLines h.removedNote ++
        h.added.map (Line.after ['+'] (by decide)) ++ noteLines h.addedNote).map Line.chars) =
      Diff.readBody number ((h.added.map (Line.after ['+'] (by decide))).map Line.chars) := by
    intro number
    rw [List.map_append, Diff.readBody_append_idle fun l => role_note _, List.map_append,
      Diff.readBody_idle_append hbefore]
  rw [lines, List.map_cons, Diff.readBody_cons, hrest]
  unfold Diff.readLine Diff.numberAfter
  rw [role_header]
  unfold edits
  by_cases hlt : h.start < numberLimit
  · simp only [hlt, if_true, firstNumber] at hstart ⊢
    simp only [Option.getD_some, readBody_added hstart]
    rfl
  · simp only [hlt, if_false, firstNumber] at hstart ⊢
    simp only [Option.getD_none, readBody_added hstart]
    rfl

/-- What hunks say, one after the other. -/
theorem readBody_flatMap {hs : List Hunk}
    (fits : ∀ h ∈ hs, h.start + h.added.length ≤ numberLimit) (next : Option Nat) :
    Diff.readBody next ((hs.flatMap lines).map Line.chars) =
      some ⟨hs.flatMap fun h => h.edits.lines, hs.flatMap fun h => h.edits.badHeaders⟩ := by
  induction hs generalizing next with
  | nil => rfl
  | cons h hs ih =>
      rw [List.flatMap_cons, List.map_append, Diff.readBody_append,
        readBody_lines (fits h (List.mem_cons_self ..)),
        ih (fun k hk => fits k (List.mem_cons_of_mem _ hk))]
      rfl

end Hunk

/-! ### Paths -/

/-- Whether a path has no backslash and no blank at either end. -/
structure Text.Line.IsPath (l : Line) : Prop where
  noBackslash : '\\' ∉ l.chars
  head : ∀ c ∈ l.chars.head?, Text.isBlank c = false
  last : ∀ c ∈ l.chars.getLast?, Text.isBlank c = false

theorem Path.slashed_eq_self {cs : List Char} (h : '\\' ∉ cs) : Path.slashed cs = cs := by
  have hid : ∀ c ∈ cs, (if c = '\\' then '/' else c) = id c :=
    fun c hc => if_neg (by rintro rfl; exact h hc)
  rw [Path.slashed, List.map_congr_left hid, List.map_id]

/-- The name of a path is its text. -/
theorem Text.Line.IsPath.nameOf {l : Line} (h : l.IsPath) : Diff.nameOf l.chars = l.text := by
  unfold Diff.nameOf Text.trimChars
  rw [Text.trimStart_eq_self h.head, Text.trimEnd_eq_self h.last,
    Path.slashed_eq_self h.noBackslash]
  rfl

/-! ### Changes -/

/-- A change of a file's content: its patch has a `+++ ` line with a path that is not quoted, and
hunks without context. -/
structure Change where
  /-- What stands behind `diff --git ` in the first line. -/
  opening : Line
  /-- The extended header, in front of the `--- ` line. -/
  header : List Line
  plain : ∀ l ∈ header, l.IsPlain
  /-- What stands behind `--- `. -/
  source : Line
  path : Line
  hunks : List Hunk

namespace Change

/-- The path as it is written: with a tab behind it if there is a space in it. -/
def writtenPath (c : Change) : Line :=
  if ' ' ∈ c.path.chars then ⟨c.path.chars ++ ['\t'], by simp [c.path.unbroken]⟩ else c.path

/-- The `--- ` line. -/
def sourceLine (c : Change) : Line := c.source.after ['-', '-', '-', ' '] (by decide)

/-- The lines behind the `+++ ` line. -/
def body (c : Change) : List Line := c.hunks.flatMap Hunk.lines

/-- The patch of a change. -/
def patch (c : Change) : Patch where
  opening := c.opening
  header := c.header ++ [c.sourceLine]
  plain := by
    intro l hl
    rcases List.mem_append.1 hl with hl | hl
    · exact c.plain l hl
    · rw [List.mem_singleton.1 hl]
      constructor <;> simp [sourceLine, Line.after, List.cons_prefix_cons]
  content := some (.file c.writtenPath, c.body)

/-- The diff of changes. -/
def render (cs : List Change) : String := Patch.textAll (cs.map patch)

theorem not_isForeign (c : Change) : ¬ c.patch.IsForeign := by
  rintro ⟨target, body, hcontent, hforeign⟩
  obtain ⟨rfl, -⟩ := Prod.mk.inj (Option.some.inj hcontent)
  exact hforeign _ rfl

/-- The lines that git adds of a change, in order. -/
def addedLines (c : Change) : List Line := c.hunks.flatMap Hunk.added

/-- The lines of a change that begin a section besides its `+++ ` line are added lines. -/
theorem filterMap_pathOf?_body (c : Change) :
    (c.body.map Line.chars).filterMap Diff.pathOf? = c.addedLines.filterMap Line.forgedPath? := by
  -- of the lines of a hunk only the added ones begin with a plus sign
  have hunk : ∀ h : Hunk, (h.lines.map Line.chars).filterMap Diff.pathOf? =
      h.added.filterMap Line.forgedPath? := by
    intro h
    have hidle : ∀ ls : List (List Char), (∀ l ∈ ls, Diff.role l = .idle) →
        ls.filterMap Diff.pathOf? = [] := fun ls hls =>
      List.filterMap_eq_nil_iff.2 fun l hl => Diff.pathOf?_of_idle (hls l hl)
    have hheader : Diff.pathOf? h.header.chars = none := rfl
    rw [Hunk.lines, List.map_cons, List.filterMap_cons_none hheader]
    simp only [List.map_append, List.filterMap_append]
    rw [hidle _ fun l => Hunk.role_removed _, hidle _ fun l => Hunk.role_note _,
      hidle _ fun l => Hunk.role_note _, List.map_map, List.filterMap_map]
    simp only [List.nil_append, List.append_nil]
    rfl
  unfold body addedLines
  rw [List.map_flatMap, List.filterMap_flatMap, List.filterMap_flatMap]
  exact List.flatMap_congr fun h _ => hunk h

/-- All line numbers of a change have 64 bits. -/
def Fits (c : Change) : Prop := ∀ h ∈ c.hunks, h.start + h.added.length ≤ numberLimit

/-- The tab behind a path with spaces does not belong to the name. -/
theorem nameOf_writtenPath (c : Change) :
    Diff.nameOf c.writtenPath.chars = Diff.nameOf c.path.chars := by
  unfold writtenPath
  split
  · exact congrArg (fun cs => String.ofList (Path.slashed cs))
      (Text.trimChars_append_blank (by decide) _)
  · rfl

/-- What the parser takes from the patch of a change. -/
theorem readings_patch (c : Change) :
    Diff.readings c.patch.rawLines =
      ⟨Diff.nameOf c.path.chars, Diff.readBody none (Diff.cut (c.body.map Line.chars)).1⟩ ::
        Diff.readings (c.body.map Line.chars) := by
  have hcut : Diff.cut c.patch.rawLines =
      ((c.patch.openingLine :: c.patch.header).map Line.chars,
        ⟨c.writtenPath.chars, (Diff.cut (c.body.map Line.chars)).1⟩ ::
          (Diff.cut (c.body.map Line.chars)).2) := Patch.cut_of_file rfl
  rw [← c.nameOf_writtenPath]
  unfold Diff.readings Diff.sections
  rw [hcut]
  rfl

/-- The diff of changes is read change by change. -/
theorem parse_render_eq (cs : List Change) :
    Diff.parse (render cs) =
      (cs.flatMap fun c => Diff.readings c.patch.rawLines).foldlM Diff.addReading ⟨∅, []⟩ := by
  have hlines : ((cs.map patch).flatMap Patch.lines).map Line.chars =
      (cs.map patch).flatMap Patch.rawLines := by
    rw [List.map_flatMap]
    rfl
  rw [render, Patch.textAll, Diff.parse_unlines, hlines, Patch.readings_flatMap, List.flatMap_map]
  intro p hp
  obtain ⟨c, -, rfl⟩ := List.mem_map.1 hp
  exact c.not_isForeign

/-- If all line numbers fit, all that the patch of a change says can be read. -/
theorem isSome_readings_patch {c : Change} (fits : c.Fits) :
    ∀ r ∈ Diff.readings c.patch.rawLines, r.edits.isSome := by
  have hbody : (Diff.readBody none (c.body.map Line.chars)).isSome := by
    rw [body, Hunk.readBody_flatMap fits]
    rfl
  obtain ⟨hfront, hrest⟩ := Diff.isSome_readings hbody
  rw [readings_patch]
  intro r hr
  rcases List.mem_cons.1 hr with rfl | hr
  · exact hfront
  · exact hrest r hr

/-- If all line numbers fit, the diff of changes has a result. -/
theorem parse_render_of_fits {cs : List Change} (fits : ∀ c ∈ cs, c.Fits) :
    Diff.parse (render cs) =
      .ok ⟨(∅ : EditedFiles).pushAll
          ((cs.flatMap fun c => Diff.readings c.patch.rawLines).map Diff.Reading.toFile),
        (cs.flatMap fun c => Diff.readings c.patch.rawLines).flatMap Diff.Reading.malformed⟩ := by
  rw [parse_render_eq, Diff.foldlM_addReading]
  · rfl
  · intro r hr
    obtain ⟨c, hc, hr⟩ := List.mem_flatMap.1 hr
    exact isSome_readings_patch (fits c hc) r hr

end Change

end StandardsGate
