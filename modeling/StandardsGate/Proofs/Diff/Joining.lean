import StandardsGate.Proofs.Diff.Reading

/-!
Diffs one behind the other.

A diff may be read in parts. What the parts come to on their own is put together file by file, and
the result is that of reading the sections of all parts one after the other.

Main definitions:

* `Diff.join` — a diff with what another one says put behind it;
* `Diff.parseEach` — texts read on their own, and what they say put together.

Main results:

* `EditedFiles.pushAll_pushAll_toList` — files may be pushed before or behind the others are joined;
* `Diff.join_assoc` — in which order diffs are joined makes no difference;
* `Diff.foldlM_addReading_join` — **sections may be collected on their own first**;
* `Diff.foldlM_flatMap_addReading` — and so may those of many parts;
* `Diff.parse_append_eq_bind`, `Diff.parse_append_eq_ok_iff` — **the diff of two texts**, if the
  second one begins with a file;
* `Diff.toList_files_join` — its files, if the texts are about different ones.
-/

namespace StandardsGate

namespace EditedFiles

theorem toList_injective : Function.Injective toList := by
  intro fs gs h
  have hfile : Function.Injective fun e : String × AddedLines => (⟨e.1, e.2⟩ : EditedFile) := by
    rintro ⟨key, lines⟩ ⟨key', lines'⟩ heq
    injection heq with hkey hlines
    exact Prod.ext hkey hlines
  have hentries : fs.byName.entries = gs.byName.entries := List.map_injective_iff.2 hfile h
  obtain ⟨es, hes⟩ := fs
  obtain ⟨es', hes'⟩ := gs
  cases hentries
  rfl

/-- A collection is what pushing its files comes to. -/
theorem pushAll_toList_self (fs : EditedFiles) : (∅ : EditedFiles).pushAll fs.toList = fs := by
  have hnodup : ((∅ : EditedFiles).names ++ fs.toList.map EditedFile.name).Nodup := by
    rw [names_toList]
    exact fs.byName.nodup_keys
  exact toList_injective (toList_pushAll_of_nodup hnodup)

/-- Files may be pushed to a collection before that is pushed, or behind it. -/
theorem pushAll_pushAll_toList (fs gs : EditedFiles) (added : List EditedFile) :
    fs.pushAll (gs.pushAll added).toList = (fs.pushAll gs.toList).pushAll added := by
  have hpush : gs.pushAll added = (∅ : EditedFiles).pushAll (gs.toList ++ added) := by
    rw [pushAll_append, pushAll_toList_self]
  rw [hpush, pushAll_toList_pushAll, pushAll_append]

end EditedFiles

namespace Diff

/-- A diff with what another one says put behind it: the files of the other one are pushed in
order. -/
def join (d own : Diff) : Diff where
  files := d.files.pushAll own.files.toList
  malformed := d.malformed ++ own.malformed

theorem join_empty (d : Diff) : d.join ⟨∅, []⟩ = d := by
  cases d
  simp [join]
  rfl

/-- In which order diffs are joined makes no difference. -/
theorem join_assoc (d own more : Diff) : (d.join own).join more = d.join (own.join more) := by
  simp only [join, EditedFiles.pushAll_pushAll_toList, List.append_assoc]

theorem addReading_join (d own : Diff) (r : Reading) :
    addReading (d.join own) r = (addReading own r).map d.join := by
  unfold addReading
  cases r.edits with
  | none => rfl
  | some e =>
      -- the file of the section is the only one that is pushed
      have hpush : ∀ f, d.files.pushAll (own.files.push f).toList =
          (d.files.pushAll own.files.toList).push f := fun f =>
        EditedFiles.pushAll_pushAll_toList d.files own.files [f]
      simp [Except.map, join, hpush, List.append_assoc]

/-- **Sections may be collected on their own first.** -/
theorem foldlM_addReading_join (d own : Diff) (rs : List Reading) :
    rs.foldlM addReading (d.join own) = (rs.foldlM addReading own).map d.join := by
  induction rs generalizing own with
  | nil => rfl
  | cons r rs ih =>
      rw [List.foldlM_cons, List.foldlM_cons, addReading_join]
      -- whether a section fails does not depend on what was collected before it
      cases addReading own r with
      | error fault => rfl
      | ok next => exact ih next

/-- The sections of many parts may be collected part by part. -/
theorem foldlM_flatMap_addReading {α : Type} (parts : List α) (content : α → List Reading)
    (d : Diff) :
    (parts.flatMap content).foldlM addReading d =
      parts.foldlM (fun d part => ((content part).foldlM addReading ⟨∅, []⟩).map d.join) d := by
  induction parts generalizing d with
  | nil => rfl
  | cons part parts ih =>
      have hfirst : (content part).foldlM addReading d =
          ((content part).foldlM addReading ⟨∅, []⟩).map d.join := by
        rw [← foldlM_addReading_join, join_empty]
      rw [List.flatMap_cons, List.foldlM_append, List.foldlM_cons, hfirst]
      cases (content part).foldlM addReading ⟨∅, []⟩ with
      | error fault => rfl
      | ok own => exact ih (d.join own)

/-- Nothing stands before the first file of a text that begins with a file. -/
theorem cut_splitOn_of_fileMarker {cs : List Char} (h : fileMarker <+: cs) :
    (cut (Text.splitOn '\n' cs)).1 = [] := by
  obtain ⟨rest, rfl⟩ := h
  cases hrest : Text.splitOn '\n' rest with
  | nil => exact absurd hrest (Text.splitOn_ne_nil '\n' rest)
  | cons path parts =>
      have hsplit : Text.splitOn '\n' (fileMarker ++ rest) = (fileMarker ++ path) :: parts := by
        simp [fileMarker, Text.splitOn, hrest, Text.consHead]
      have hpath : pathOf? (fileMarker ++ path) = some path := by
        simp [pathOf?, List.isPrefixOf_iff_prefix]
      rw [hsplit, cut_cons_of_some hpath]

/-- What two texts say, if the second one begins on a line of its own, with a file. -/
theorem readings_splitOn_append {cs ds : List Char} (hend : ∀ c ∈ cs.getLast?, c = '\n')
    (hbegin : fileMarker <+: ds) :
    readings (Text.splitOn '\n' (cs ++ ds)) =
      readings (Text.splitOn '\n' cs) ++ readings (Text.splitOn '\n' ds) := by
  have hidle : ∀ l ∈ (cut (Text.splitOn '\n' ds)).1, role l = .idle := by
    simp [cut_splitOn_of_fileMarker hbegin]
  rcases List.eq_nil_or_concat cs with rfl | ⟨front, c, rfl⟩
  · rfl
  · obtain rfl : c = '\n' := hend c (by simp)
    have hwhole : Text.splitOn '\n' (front.concat '\n') = Text.splitOn '\n' front ++ [[]] := by
      rw [List.concat_eq_append, Text.splitOn_append_cons]
      rfl
    rw [hwhole, readings_append_nil, List.concat_eq_append, List.append_assoc,
      List.singleton_append, Text.splitOn_append_cons, readings_append_of_idle hidle]

/-- Two texts one behind the other, if the second one begins on a line of its own with a file, are
read as each of them is, and what they say is put together. A line number that is too large stops
the parser at the section where it stops for the first of them that has one. -/
theorem parse_append_eq_bind {t₁ t₂ : String} (hend : ∀ c ∈ t₁.toList.getLast?, c = '\n')
    (hbegin : fileMarker <+: t₂.toList) :
    parse (t₁ ++ t₂) = parse t₁ >>= fun d₁ => (parse t₂).map d₁.join := by
  simp only [parse, parseChars_eq_foldlM_readings, String.toList_append]
  rw [readings_splitOn_append hend hbegin, List.foldlM_append]
  congr
  funext d₁
  rw [← foldlM_addReading_join, join_empty]

theorem parse_append {t₁ t₂ : String} {d₁ d₂ : Diff} (h₁ : parse t₁ = .ok d₁)
    (h₂ : parse t₂ = .ok d₂) (hend : ∀ c ∈ t₁.toList.getLast?, c = '\n')
    (hbegin : fileMarker <+: t₂.toList) : parse (t₁ ++ t₂) = .ok (d₁.join d₂) := by
  rw [parse_append_eq_bind hend hbegin, h₁, h₂]
  rfl

/-- **The diff of two texts**, if the second one begins on a line of its own with a file: it has the
files of the first one, to which those of the second one are pushed in order, and the malformed
headers of both. There is one exactly if each of the texts has one. -/
theorem parse_append_eq_ok_iff {t₁ t₂ : String} (hend : ∀ c ∈ t₁.toList.getLast?, c = '\n')
    (hbegin : fileMarker <+: t₂.toList) (d : Diff) :
    parse (t₁ ++ t₂) = .ok d ↔
      ∃ d₁ d₂, parse t₁ = .ok d₁ ∧ parse t₂ = .ok d₂ ∧
        d.files = d₁.files.pushAll d₂.files.toList ∧
        d.malformed = d₁.malformed ++ d₂.malformed := by
  rw [parse_append_eq_bind hend hbegin]
  constructor
  · intro h
    cases h₁ : parse t₁ with
    | error fault => rw [h₁] at h; cases h
    | ok d₁ =>
        cases h₂ : parse t₂ with
        | error fault => rw [h₁, h₂] at h; cases h
        | ok d₂ =>
            rw [h₁, h₂] at h
            cases h
            exact ⟨d₁, d₂, rfl, rfl, rfl, rfl⟩
  · rintro ⟨d₁, d₂, h₁, h₂, hfiles, hmalformed⟩
    rw [h₁, h₂]
    obtain ⟨files, malformed⟩ := d
    cases hfiles
    cases hmalformed
    rfl

/-- Two texts that are both about `a.js`, the second one twice: its lines 2 are three, and one of
its hunks and one of `b.js` have a header that cannot be read. -/
def overlappingTexts : String × String :=
  ("+++ b/a.js\n@@ -0,0 +1,2 @@\n+x\n+y\n@@ a\n",
    "+++ b/a.js\n@@ -0,0 +2 @@\n+z\n+++ b/b.js\n@@ b\n+u\n+++ b/a.js\n@@ -0,0 +2,2 @@\n+v\n+w\n")

theorem parse_append_overlapping :
    (∀ c ∈ overlappingTexts.1.toList.getLast?, c = '\n') ∧
      fileMarker <+: overlappingTexts.2.toList ∧
      ∃ d d₁ d₂, parse (overlappingTexts.1 ++ overlappingTexts.2) = .ok d ∧
        (d.files.toList.map fun f => (f.name, f.lines.entries)) =
          [("a.js", [(1, "x"), (2, "v"), (3, "w")]), ("b.js", [(0, "u")])] ∧
        d.malformed = [⟨"a.js", "@@ a"⟩, ⟨"b.js", "@@ b"⟩] ∧
        parse overlappingTexts.1 = .ok d₁ ∧ parse overlappingTexts.2 = .ok d₂ ∧
        d.files = d₁.files.pushAll d₂.files.toList ∧
        d.malformed = d₁.malformed ++ d₂.malformed := by
  have hlast : overlappingTexts.1.toList.getLast? = some '\n' := by decide +kernel
  have hend : ∀ c ∈ overlappingTexts.1.toList.getLast?, c = '\n' := by simp [hlast]
  have hbegin : fileMarker <+: overlappingTexts.2.toList := by decide +kernel
  have hread : ((parse (overlappingTexts.1 ++ overlappingTexts.2)).map fun d =>
      (d.files.toList.map fun f => (f.name, f.lines.entries), d.malformed)) =
        .ok ([("a.js", [(1, "x"), (2, "v"), (3, "w")]), ("b.js", [(0, "u")])],
          [⟨"a.js", "@@ a"⟩, ⟨"b.js", "@@ b"⟩]) := by
    decide +kernel
  cases hd : parse (overlappingTexts.1 ++ overlappingTexts.2) with
  | error fault => rw [hd] at hread; cases hread
  | ok d =>
      rw [hd] at hread
      obtain ⟨hfiles, hmalformed⟩ := Prod.mk.inj (Except.ok.inj hread)
      obtain ⟨d₁, d₂, h⟩ := (parse_append_eq_ok_iff hend hbegin d).1 hd
      exact ⟨hend, hbegin, d, d₁, d₂, rfl, hfiles, hmalformed, h⟩

/-- Diffs about different files have the files of both, one behind the other. -/
theorem toList_files_join {d own : Diff} (h : ∀ n ∈ d.files.names, n ∉ own.files.names) :
    (d.join own).files.toList = d.files.toList ++ own.files.toList := by
  refine EditedFiles.toList_pushAll_of_nodup ?_
  rw [EditedFiles.names_toList]
  exact List.nodup_append.2 ⟨d.files.byName.nodup_keys, own.files.byName.nodup_keys,
    fun n hn m hm heq => h n hn (heq ▸ hm)⟩

/-- Texts read on their own, and what they say put together in order. -/
def parseEach (texts : List String) : Except LineOverflow Diff :=
  texts.foldlM (fun d text => (parse text).map d.join) ⟨∅, []⟩

end Diff

end StandardsGate
