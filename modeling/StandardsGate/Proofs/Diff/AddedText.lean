import StandardsGate.Proofs.Diff.Hunks

/-!
The text that checkers search.

A file of a diff has the added lines of all its sections, in order. They are kept by number: a line
whose number comes again gives way to the later one, which takes its place. So the text of a file is
that of all its added lines as long as their numbers are distinct, as those of a well-formed diff
are; hunks whose headers give no number all count from 0.

Main definitions:

* `Diff.additions` — the added lines of a file with their numbers, in order of appearance;
* `Diff.addedTexts` — the texts of the lines that begin with a plus sign and stand behind a hunk
  header in a section of the file.

Main results:

* `Diff.lines_eq_insertAll` — **the lines of a file** are its additions, inserted one after the
  other;
* `Diff.addedText_eq` — **the text of a file**, number by number;
* `Diff.values_eq_addedTexts_iff` — **no added line is lost exactly if no number is repeated**;
* `Diff.infix_addedText` — a line whose number does not come again is part of the text.
-/

namespace StandardsGate

/-- A file of a collection is what the collection has under its name. -/
theorem EditedFiles.get?_of_mem_toList {fs : EditedFiles} {f : EditedFile} (h : f ∈ fs.toList) :
    fs.byName.get? f.name = some f.lines := by
  obtain ⟨e, he, rfl⟩ := List.mem_map.1 h
  exact (OrderedMap.lookup_eq_some_iff_mem fs.byName.distinct).2 he

namespace Diff

/-- The sections of a file in a text. -/
def sectionsOf (name text : String) : List Section :=
  (sections (Text.splitOn '\n' text.toList)).filter fun s => s.name = name

/-- The added lines of a file with their numbers, in order of appearance. -/
def additions (name text : String) : List (Nat × String) :=
  (sectionsOf name text).flatMap Section.additions

/-- The texts of the lines of a file's sections that begin with a plus sign and stand behind a hunk
header, in order of appearance. -/
def addedTexts (name text : String) : List String :=
  (sectionsOf name text).flatMap Section.addedTexts

/-- The numbers of the added lines of a file, in order of appearance. -/
def addedNumbers (name text : String) : List Nat := (additions name text).map Prod.fst

/-- The text of the last added line of a number. -/
def lastText? (name text : String) (n : Nat) : Option String :=
  (additions name text).reverse.lookup n

/-- The hunks of a file leave out no added line. -/
theorem map_snd_additions (name text : String) :
    (additions name text).map Prod.snd = addedTexts name text := by
  simp only [additions, addedTexts, List.map_flatMap, Section.map_snd_additions]

/-! ### The lines of a file -/

/-- The file of a section, with its added lines. -/
def Section.toFile (s : Section) : EditedFile := (EditedFile.new s.name).registerAll s.additions

theorem toFile_reading {s : Section} (h : s.reading.edits.isSome) :
    s.reading.toFile = s.toFile := by
  obtain ⟨e, he⟩ := Option.isSome_iff_exists.1 h
  rw [Reading.toFile, Section.toFile, he, Option.getD_some, Section.edits_eq he]
  rfl

/-- Inserting the lines of all files of a name inserts the added lines of its sections. -/
theorem insertAll_linesUnder (m : AddedLines) (name : String) (ss : List Section) :
    m.insertAll (EditedFiles.linesUnder name (ss.map Section.toFile)) =
      m.insertAll ((ss.filter fun s => s.name = name).flatMap Section.additions) :=
  EditedFiles.insertAll_linesUnder_map Section.name Section.additions m name ss

variable {text : String} {d : Diff} {f : EditedFile}

/-- The files of a diff are those of its sections, put together by name. -/
theorem files_of_parse (h : parse text = .ok d) :
    d.files = (∅ : EditedFiles).pushAll
      ((sections (Text.splitOn '\n' text.toList)).map Section.toFile) := by
  rw [parse, parseChars_eq_foldlM_readings] at h
  have hsome := isSome_of_foldlM_addReading h
  rw [foldlM_addReading hsome] at h
  obtain rfl := Except.ok.inj h
  refine congrArg (EditedFiles.pushAll ∅) ?_
  rw [readings, List.map_map]
  refine List.map_congr_left fun s hs => toFile_reading (hsome _ ?_)
  exact List.mem_map_of_mem hs

/-- **The lines of a file** are its additions, inserted one after the other. -/
theorem lines_eq_insertAll (h : parse text = .ok d) (hf : f ∈ d.files.toList) :
    f.lines = OrderedMap.empty.insertAll (additions f.name text) := by
  have hget := EditedFiles.get?_of_mem_toList hf
  rw [files_of_parse h, EditedFiles.get?_pushAll] at hget
  split at hget
  · rw [insertAll_linesUnder] at hget
    exact (Option.some.inj hget).symm
  · cases hget

/-! ### The text of a file -/

/-- **The text of a file**: number by number, in the order in which the numbers came first, the text
that came last. -/
theorem addedText_eq (h : parse text = .ok d) (hf : f ∈ d.files.toList) :
    f.addedText =
      ((addedNumbers f.name text).eraseDups.filterMap (lastText? f.name text)).flatMap
        String.toList := by
  have hkeys : f.lines.keys = (addedNumbers f.name text).eraseDups := by
    rw [lines_eq_insertAll h hf, OrderedMap.keys_insertAll]
    rfl
  have hget : f.lines.get? = lastText? f.name text := by
    funext n
    rw [lines_eq_insertAll h hf, OrderedMap.get?_insertAll]
    exact Option.or_none
  rw [EditedFile.addedText, OrderedMap.values_eq_filterMap, hkeys, hget]

/-- **No added line is lost exactly if no number is repeated.** -/
theorem values_eq_addedTexts_iff (h : parse text = .ok d) (hf : f ∈ d.files.toList) :
    f.lines.values = addedTexts f.name text ↔ (addedNumbers f.name text).Nodup := by
  rw [lines_eq_insertAll h hf, ← map_snd_additions]
  exact OrderedMap.values_insertAll_eq_iff _

/-- A line whose number does not come again is part of the text. -/
theorem infix_addedText (h : parse text = .ok d) (hf : f ∈ d.files.toList)
    {front back : List (Nat × String)} {n : Nat} {t : String}
    (hadded : additions f.name text = front ++ (n, t) :: back) (hlast : n ∉ back.map Prod.fst) :
    t.toList <:+: f.addedText := by
  have hlookup : lastText? f.name text n = some t := by
    have hback : back.reverse.lookup n = none :=
      OrderedMap.lookup_eq_none_of_not_mem (by simpa using hlast)
    rw [lastText?, hadded, List.reverse_append, List.reverse_cons, List.append_assoc,
      List.lookup_append, hback]
    simp
  have hnumber : n ∈ (addedNumbers f.name text).eraseDups := by
    simp [addedNumbers, hadded]
  obtain ⟨before, after, hsplit⟩ := List.append_of_mem (List.mem_filterMap.2 ⟨n, hnumber, hlookup⟩)
  rw [addedText_eq h hf, hsplit, List.flatMap_append, List.flatMap_cons]
  exact ⟨_, _, List.append_assoc ..⟩

end Diff

end StandardsGate
