import StandardsGate.Proofs.Diff.Rendering

/-!
Which files a diff seems to change.

The parser takes every line that begins with `+++ b/` for the beginning of a file's section, and an
added line whose text begins with `++ b/` is printed as such a line. The names that it finds are
therefore those of the changes and those that added lines spell, in order of first occurrence.

Main definitions:

* `Text.Line.forgedName?` — the name that an added line spells;
* `Change.openedNames` — the names that the parser finds in a change;
* `Change.replaceAdded` — a diff with the text of one added line replaced.

Main results:

* `Change.names_parse_render` — **the names that the parser finds** in a diff;
* `Change.names_replaceAdded` — exactly when they are those of the changes, and exactly when a
  replaced text leaves them so.
-/

namespace StandardsGate

open Text (Line)
open HunkHeader (numberLimit)

/-! ### Lists with an element put in or changed -/

/-- An element put into a list without repetitions leaves the first occurrences as they are exactly
if it stands in front of its place or right behind it. -/
theorem eraseDups_insert_iff {α : Type} [DecidableEq α] {xs ys : List α} (h : (xs ++ ys).Nodup)
    (a : α) : (xs ++ a :: ys).eraseDups = xs ++ ys ↔ a ∈ xs ∨ ys.head? = some a := by
  obtain ⟨hxs, hys, hdisjoint⟩ := List.nodup_append.1 h
  have hremove : ys.removeAll xs = ys := by
    refine List.filter_eq_self.2 fun b hb => ?_
    have : b ∉ xs := fun hb' => hdisjoint b hb' b hb rfl
    simpa using this
  rw [List.eraseDups_append, eraseDups_eq_self hxs, List.append_cancel_left_eq]
  by_cases ha : a ∈ xs
  · have hdrop : (a :: ys).removeAll xs = ys.removeAll xs := by simp [List.removeAll, ha]
    simp [ha, hdrop, hremove, eraseDups_eq_self hys]
  · have hkeep : (a :: ys).removeAll xs = a :: ys.removeAll xs := by simp [List.removeAll, ha]
    rw [hkeep, hremove, List.eraseDups_cons]
    cases ys with
    | nil => simp [ha]
    | cons b ys =>
        obtain ⟨hb, hys'⟩ := List.nodup_cons.1 hys
        simp only [ha, false_or, List.head?_cons, Option.some.injEq]
        constructor
        · intro heq
          exact (List.cons.inj heq).1.symm
        · rintro rfl
          have hrest : (b :: ys).filter (fun c => !c == b) = ys := by
            rw [List.filter_cons_of_neg (by simp)]
            refine List.filter_eq_self.2 fun c hc => ?_
            have : c ≠ b := by rintro rfl; exact hb hc
            simpa using this
          rw [hrest, eraseDups_eq_self hys']

theorem mem_modify {α : Type} {f : α → α} {xs : List α} {i : Nat} {y : α}
    (h : y ∈ xs.modify i f) : y ∈ xs ∨ ∃ x ∈ xs, y = f x := by
  obtain ⟨n, hn⟩ := List.mem_iff_getElem?.1 h
  rw [List.getElem?_modify] at hn
  obtain ⟨x, hx, rfl⟩ := Option.map_eq_some_iff.1 hn
  split
  · exact Or.inr ⟨x, List.mem_of_getElem? hx, rfl⟩
  · exact Or.inl (List.mem_of_getElem? hx)

/-! ### Names of paths -/

/-- A name that the parser gives has no backslash, and no blank at either end. -/
theorem Text.Line.isPath_of_text_eq_nameOf {l : Line} {cs : List Char}
    (h : l.text = Diff.nameOf cs) : l.IsPath := by
  have hchars : l.chars = Path.slashed (Text.trimChars cs) := String.ofList_injective h
  have hslash : ∀ c d, Text.isBlank c = false → (if c = '\\' then '/' else c) = d →
      Text.isBlank d = false := by
    rintro c d hc rfl
    split
    · decide
    · exact hc
  obtain ⟨hhead, hlast⟩ := Text.isBlank_ends_trimChars cs
  refine ⟨?_, ?_, ?_⟩
  · rw [hchars, Path.slashed, List.mem_map]
    rintro ⟨c, -, hc⟩
    split at hc
    · cases hc
    · rename_i hne
      exact hne hc
  · intro d hd
    rw [hchars, Path.slashed, List.head?_map, Option.mem_def, Option.map_eq_some_iff] at hd
    obtain ⟨c, hc, hcd⟩ := hd
    exact hslash c d (hhead c hc) hcd
  · intro d hd
    rw [hchars, Path.slashed, List.getLast?_map, Option.mem_def, Option.map_eq_some_iff] at hd
    obtain ⟨c, hc, hcd⟩ := hd
    exact hslash c d (hlast c hc) hcd

/-! ### The names that the parser finds -/

/-- The name that an added line spells, if it is taken for the `+++ ` line of a file. -/
def Text.Line.forgedName? (l : Line) : Option String :=
  if forgery <+: l.chars then some (Diff.nameOf (l.chars.drop forgery.length)) else none

theorem Text.Line.forgedName?_eq (l : Line) : l.forgedName? = l.forgedPath?.map Diff.nameOf := by
  unfold forgedName?
  split
  · rename_i h
    obtain ⟨rest, hrest⟩ := h
    rw [← hrest]
    simp [forgedPath?, Diff.pathOf?, Diff.fileMarker, forgery, ← hrest]
  · rename_i h
    rw [l.forgedPath?_eq_none_iff.2 h]
    rfl

namespace Change

/-- The names that the parser finds in a change: that of its path, and those that its added lines
spell. -/
def openedNames (c : Change) : List String :=
  Diff.nameOf c.path.chars :: c.addedLines.filterMap Line.forgedName?

/-- Whether no added line of a change spells a name. -/
def Unforged (c : Change) : Prop := ∀ l ∈ c.addedLines, ¬ forgery <+: l.chars

/-- The texts of the paths of changes. -/
def names (cs : List Change) : List String := cs.map fun c => c.path.text

/-- **The names that the parser finds** in a diff, in order of first occurrence. -/
theorem names_parse_render {cs : List Change} (fits : ∀ c ∈ cs, c.Fits) :
    ∃ d, Diff.parse (render cs) = .ok d ∧
      d.files.names = (cs.flatMap openedNames).eraseDups := by
  refine ⟨_, parse_render_of_fits fits, ?_⟩
  have hopened : ∀ c : Change,
      (Diff.readings c.patch.rawLines).map Diff.Reading.file = openedNames c := by
    intro c
    rw [readings_patch, List.map_cons, Diff.map_file_readings, filterMap_pathOf?_body,
      List.map_filterMap, openedNames]
    simp only [Line.forgedName?_eq]
  rw [EditedFiles.names_pushAll, List.map_map]
  have hfile : EditedFile.name ∘ Diff.Reading.toFile = Diff.Reading.file :=
    funext Diff.Reading.name_toFile
  rw [hfile, List.map_flatMap, List.flatMap_congr fun c _ => hopened c]
  rfl

theorem openedNames_of_unforged {c : Change} (h : c.Unforged) :
    c.openedNames = [Diff.nameOf c.path.chars] := by
  have hnil : c.addedLines.filterMap Line.forgedName? = [] :=
    List.filterMap_eq_nil_iff.2 fun l hl => if_neg (h l hl)
  rw [openedNames, hnil]

/-- Without forged names, the names that the parser finds are those of the changes exactly if the
paths are plain and distinct. -/
theorem eraseDups_openedNames_eq_names_iff {cs : List Change} (h : ∀ c ∈ cs, c.Unforged) :
    (cs.flatMap openedNames).eraseDups = names cs ↔
      (∀ c ∈ cs, c.path.IsPath) ∧ (names cs).Nodup := by
  have hopened : cs.flatMap openedNames = cs.map fun c => Diff.nameOf c.path.chars := by
    rw [List.flatMap_congr fun c hc => openedNames_of_unforged (h c hc), ← List.map_eq_flatMap]
  rw [hopened]
  constructor
  · intro heq
    refine ⟨fun c hc => ?_, heq ▸ nodup_eraseDups _⟩
    -- each path is a name that was opened, and only plain paths are such names
    have hmem : c.path.text ∈ names cs := List.mem_map.2 ⟨c, hc, rfl⟩
    rw [← heq, List.mem_eraseDups, List.mem_map] at hmem
    obtain ⟨d, -, hd⟩ := hmem
    exact Line.isPath_of_text_eq_nameOf hd.symm
  · rintro ⟨hpaths, hnodup⟩
    have hnames : (cs.map fun c => Diff.nameOf c.path.chars) = names cs :=
      List.map_congr_left fun c hc => (hpaths c hc).nameOf
    rw [hnames, eraseDups_eq_self hnodup]

/-! ### Replacing the text of an added line -/

/-- A change with the text of one added line replaced. -/
def replaceLine (c : Change) (j k : Nat) (l : Line) : Change :=
  { c with hunks := c.hunks.modify j fun h => { h with added := h.added.set k l } }

/-- A diff with the text of one added line replaced: line `k` of hunk `j` of change `i`. -/
def replaceAdded (cs : List Change) (i j k : Nat) (l : Line) : List Change :=
  cs.modify i fun c => c.replaceLine j k l

/-- The added line at a place. -/
def addedAt? (cs : List Change) (i j k : Nat) : Option Line := do
  let c ← cs[i]?
  let h ← c.hunks[j]?
  h.added[k]?

/-- Replacing a text does not change how many lines a hunk adds. -/
theorem fits_replaceAdded {cs : List Change} (fits : ∀ c ∈ cs, c.Fits) (i j k : Nat) (l : Line) :
    ∀ c ∈ replaceAdded cs i j k l, c.Fits := by
  intro c hc
  rcases mem_modify hc with hc | ⟨old, hold, rfl⟩
  · exact fits c hc
  · intro h hh
    rcases mem_modify hh with hh | ⟨g, hg, rfl⟩
    · exact fits old hold h hh
    · simpa using fits old hold g hg

/-- The names that the parser finds in a change one of whose added texts is replaced. -/
theorem openedNames_replaceLine {c : Change} (h : c.Unforged) {j k : Nat} {hunk : Hunk}
    (hj : c.hunks[j]? = some hunk) (hk : k < hunk.added.length) (l : Line) :
    (c.replaceLine j k l).openedNames = Diff.nameOf c.path.chars :: l.forgedName?.toList := by
  have hlt : j < c.hunks.length := (List.getElem?_eq_some_iff.1 hj).1
  have hget : c.hunks[j] = hunk := (List.getElem?_eq_some_iff.1 hj).2
  have hnone : ∀ m ∈ c.addedLines, m.forgedName? = none := fun m hm => if_neg (h m hm)
  have hhunk : ∀ g ∈ c.hunks, ∀ m ∈ g.added, m.forgedName? = none := fun g hg m hm =>
    hnone m (List.mem_flatMap.2 ⟨g, hg, hm⟩)
  -- neither the other hunks nor the other lines of this hunk spell a name
  have hside : ∀ gs : List Hunk, (∀ g ∈ gs, g ∈ c.hunks) →
      (gs.flatMap Hunk.added).filterMap Line.forgedName? = [] := by
    intro gs hgs
    refine List.filterMap_eq_nil_iff.2 fun m hm => ?_
    obtain ⟨g, hg, hm⟩ := List.mem_flatMap.1 hm
    exact hhunk g (hgs g hg) m hm
  have hself : (hunk.added.set k l).filterMap Line.forgedName? = l.forgedName?.toList := by
    have hmem : hunk ∈ c.hunks := List.mem_of_getElem? hj
    have hpart : ∀ ms : List Line, (∀ m ∈ ms, m ∈ hunk.added) →
        ms.filterMap Line.forgedName? = [] := fun ms hms =>
      List.filterMap_eq_nil_iff.2 fun m hm => hhunk hunk hmem m (hms m hm)
    rw [List.set_eq_take_append_cons_drop, if_pos hk, List.filterMap_append,
      hpart _ fun m => List.mem_of_mem_take, List.nil_append, List.filterMap_cons,
      hpart _ fun m => List.mem_of_mem_drop]
    cases l.forgedName? <;> rfl
  unfold openedNames addedLines replaceLine
  rw [List.modify_eq_take_cons_drop hlt, List.flatMap_append, List.filterMap_append,
    hside _ fun g => List.mem_of_mem_take, List.nil_append, List.flatMap_cons,
    List.filterMap_append, hside _ fun g => List.mem_of_mem_drop, List.append_nil, hget, hself]

/-- The names that the parser finds in a diff one of whose added texts is replaced. -/
theorem flatMap_openedNames_replaceAdded {cs : List Change} (h : ∀ c ∈ cs, c.Unforged)
    (hpaths : ∀ c ∈ cs, c.path.IsPath) {i j k : Nat} (hplace : (addedAt? cs i j k).isSome)
    (l : Line) :
    (replaceAdded cs i j k l).flatMap openedNames =
      (names cs).take (i + 1) ++ (l.forgedName?.toList ++ (names cs).drop (i + 1)) := by
  have hopened : ∀ ds : List Change, (∀ d ∈ ds, d ∈ cs) → ds.flatMap openedNames = names ds := by
    intro ds hds
    rw [List.flatMap_congr fun d hd => openedNames_of_unforged (h d (hds d hd)),
      ← List.map_eq_flatMap]
    exact List.map_congr_left fun d hd => (hpaths d (hds d hd)).nameOf
  obtain ⟨m, hm⟩ := Option.isSome_iff_exists.1 hplace
  obtain ⟨c, hc, hhunk⟩ := Option.bind_eq_some_iff.1 hm
  obtain ⟨hunk, hj, hk⟩ := Option.bind_eq_some_iff.1 hhunk
  obtain ⟨hlt, rfl⟩ := List.getElem?_eq_some_iff.1 hc
  have hmem : cs[i] ∈ cs := List.getElem_mem hlt
  have hklt : k < hunk.added.length := (List.getElem?_eq_some_iff.1 hk).1
  have hname : Diff.nameOf cs[i].path.chars = cs[i].path.text := (hpaths _ hmem).nameOf
  have htake : (names cs).take (i + 1) = (names cs).take i ++ [cs[i].path.text] := by
    rw [List.take_add_one, names, List.getElem?_map, List.getElem?_eq_getElem hlt]
    rfl
  rw [replaceAdded, List.modify_eq_take_cons_drop hlt, List.flatMap_append,
    hopened _ fun d => List.mem_of_mem_take, List.flatMap_cons,
    hopened _ fun d => List.mem_of_mem_drop, openedNames_replaceLine (h _ hmem) hj hklt, hname,
    htake]
  simp [names, List.map_take, List.map_drop]

/-- **Names that added lines spell.** The parser finds the names of the changes and those that
added lines spell. If no added line spells one, they are those of the changes exactly if the paths
are plain and distinct; and then a text put in the place of an added line leaves them as they are
exactly if it spells no name, or that of a change up to the one behind it. -/
theorem names_replaceAdded {cs : List Change} (fits : ∀ c ∈ cs, c.Fits) (i j k : Nat) (l : Line) :
    ∃ d d', Diff.parse (render cs) = .ok d ∧
      Diff.parse (render (replaceAdded cs i j k l)) = .ok d' ∧
      d.files.names = (cs.flatMap openedNames).eraseDups ∧
      d'.files.names = ((replaceAdded cs i j k l).flatMap openedNames).eraseDups ∧
      ((∀ c ∈ cs, c.Unforged) →
        (d.files.names = names cs ↔ (∀ c ∈ cs, c.path.IsPath) ∧ (names cs).Nodup) ∧
        ((∀ c ∈ cs, c.path.IsPath) → (names cs).Nodup → (addedAt? cs i j k).isSome →
          (d'.files.names = d.files.names ↔
            ∀ n, l.forgedName? = some n → n ∈ (names cs).take (i + 2)))) := by
  obtain ⟨d, hd, hnames⟩ := names_parse_render fits
  obtain ⟨d', hd', hnames'⟩ := names_parse_render (fits_replaceAdded fits i j k l)
  refine ⟨d, d', hd, hd', hnames, hnames', fun h => ?_⟩
  rw [hnames, hnames']
  refine ⟨eraseDups_openedNames_eq_names_iff h, fun hpaths hnodup hplace => ?_⟩
  rw [(eraseDups_openedNames_eq_names_iff h).2 ⟨hpaths, hnodup⟩,
    flatMap_openedNames_replaceAdded h hpaths hplace]
  have hsplit : (names cs).take (i + 1) ++ (names cs).drop (i + 1) = names cs :=
    List.take_append_drop (i + 1) (names cs)
  cases l.forgedName? with
  | none =>
      rw [Option.toList_none, List.nil_append, hsplit, eraseDups_eq_self hnodup]
      simp
  | some n =>
      have hinsert := eraseDups_insert_iff (hsplit.symm ▸ hnodup) n
      have htake : n ∈ (names cs).take (i + 2) ↔
          n ∈ (names cs).take (i + 1) ∨ (names cs)[i + 1]? = some n := by
        rw [List.take_add_one, List.mem_append, Option.mem_toList]
      rw [hsplit] at hinsert
      rw [Option.toList_some, List.singleton_append, hinsert, List.head?_drop, ← htake]
      simp

/-- What git prints of a new file. -/
def loggingHeader : List Line := [.first "new file mode 100644"]

theorem plain_loggingHeader : ∀ l ∈ loggingHeader, l.IsPlain := by decide

/-- A new file that writes two messages. -/
def logging : Change where
  opening := .first "a/a.js b/a.js"
  header := loggingHeader
  plain := plain_loggingHeader
  source := .first "/dev/null"
  path := .first "a.js"
  hunks := [
    { oldStart := 0, start := 1, heading := .first ""
      removed := [], removedNote := none
      added := [.first "log(1)", .first "log(2)"], addedNote := none }]

/-- An added line that spells the name of a file. -/
def spelling : Line := .first "++ b/x"

theorem fits_logging : ∀ c ∈ [logging], c.Fits := by
  simp only [List.mem_singleton, forall_eq]
  unfold Fits
  decide

/-- A text in the place of the first message adds a file to the names. -/
theorem names_replaceAdded_logging :
    (∀ c ∈ [logging], c.Fits) ∧
      ∃ d d', Diff.parse (render [logging]) = .ok d ∧
        Diff.parse (render (replaceAdded [logging] 0 0 0 spelling)) = .ok d' ∧
        d.files.names = ["a.js"] ∧ d'.files.names = ["a.js", "x"] := by
  obtain ⟨d, d', hd, hd', hnames, hnames', -⟩ := names_replaceAdded fits_logging 0 0 0 spelling
  exact ⟨fits_logging, d, d', hd, hd', hnames.trans (by decide), hnames'.trans (by decide)⟩

/-- **An added line can forge a name**, and the file that it stands in then loses the line, and
with it all lines behind it. -/
theorem forged_logging :
    render (replaceAdded [logging] 0 0 0 spelling) =
        "diff --git a/a.js b/a.js\nnew file mode 100644\n--- /dev/null\n+++ b/a.js\n" ++
          "@@ -0,0 +1,2 @@\n+++ b/x\n+log(2)\n" ∧
      names (replaceAdded [logging] 0 0 0 spelling) = ["a.js"] ∧
      (Diff.parse (render [logging])).map
          (fun d => d.files.toList.map fun f => (f.name, f.lines.entries)) =
        .ok [("a.js", [(1, "log(1)"), (2, "log(2)")])] ∧
      (Diff.parse (render (replaceAdded [logging] 0 0 0 spelling))).map
          (fun d => d.files.toList.map fun f => (f.name, f.lines.entries)) =
        .ok [("a.js", []), ("x", [])] := by
  refine ⟨by decide +kernel, by decide, ?_, ?_⟩
  · rw [parse_render_eq]
    decide +kernel
  · rw [parse_render_eq]
    decide +kernel

end Change

end StandardsGate
