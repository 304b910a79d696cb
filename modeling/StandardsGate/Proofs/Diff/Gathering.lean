import StandardsGate.Proofs.Diff.Collection

/-!
What a collection of edited files remembers.

Files are built by registering lines and are pushed one after the other. A collection keeps two
orders, that of the names and, under each name, that of the numbers, and both are those of first
appearance; under each number the text that came last stands. It does not matter in which of the
files of a name a line was registered, so what a collection holds is a matter of the whole history.

Main definitions:

* `EditedFiles.Built` — a file as it is built: its name, and the lines that are registered;
* `EditedFiles.gathered` — the collection of a history of files;
* `EditedFiles.registered` — the lines that a history registers under a name.

Main results:

* `EditedFiles.push_push` — a file that is pushed twice is there once;
* `EditedFiles.find?_eq_some_iff` — finding a file is having it in the list of files;
* `EditedFiles.gathered_exact` — **what a collection remembers** of a history.
-/

namespace StandardsGate

namespace EditedFiles

/-! ### Pushing and finding -/

/-- **A file that is pushed twice is there once.** -/
theorem push_push (fs : EditedFiles) (f : EditedFile) : (fs.push f).push f = fs.push f := by
  refine ext_byName ?_
  rw [byName_push, byName_push, OrderedMap.get?_insert, if_pos rfl, Option.getD_some,
    OrderedMap.insertAll_insertAll, OrderedMap.insert_insert]

/-- Finding a file is having it in the list of files. -/
theorem find?_eq_some_iff {fs : EditedFiles} {name : String} {f : EditedFile} :
    fs.find? name = some f ↔ f ∈ fs.toList ∧ f.name = name := by
  rw [find?, Option.map_eq_some_iff, toList, List.mem_map]
  constructor
  · rintro ⟨lines, hget, rfl⟩
    exact ⟨⟨(name, lines), (OrderedMap.lookup_eq_some_iff_mem fs.byName.distinct).1 hget, rfl⟩, rfl⟩
  · rintro ⟨⟨e, he, rfl⟩, rfl⟩
    exact ⟨e.2, (OrderedMap.lookup_eq_some_iff_mem fs.byName.distinct).2 he, rfl⟩

/-- The first file of a name in the list of files is the one that is found. -/
theorem find?_toList (fs : EditedFiles) (name : String) :
    fs.toList.find? (fun f => f.name = name) = fs.find? name := by
  cases hfound : fs.find? name with
  | none =>
      refine List.find?_eq_none.2 fun f hf hname => ?_
      rw [find?_eq_some_iff.2 ⟨hf, of_decide_eq_true hname⟩] at hfound
      cases hfound
  | some f =>
      obtain ⟨hf, hname⟩ := find?_eq_some_iff.1 hfound
      cases hfirst : fs.toList.find? fun f => f.name = name with
      | none => exact absurd (decide_eq_true hname) (List.find?_eq_none.1 hfirst f hf)
      | some g =>
          have hgname : g.name = name := by simpa using List.find?_some hfirst
          have hg := find?_eq_some_iff.2 ⟨List.mem_of_find?_eq_some hfirst, hgname⟩
          exact hg.symm.trans hfound

/-! ### Histories -/

/-- A file as it is built: its name, and the lines that are registered one after the other. -/
structure Built where
  name : String
  lines : List (Nat × String)
deriving DecidableEq, Repr

/-- The file that comes of building. -/
def Built.file (b : Built) : EditedFile := (EditedFile.new b.name).registerAll b.lines

/-- The collection of files that are built and pushed one after the other. -/
def gathered (history : List Built) : EditedFiles :=
  (∅ : EditedFiles).pushAll (history.map Built.file)

/-- The lines that a history registers under a name, in order. -/
def registered (name : String) (history : List Built) : List (Nat × String) :=
  (history.filter fun b => b.name = name).flatMap Built.lines

theorem names_files (history : List Built) :
    (history.map Built.file).map EditedFile.name = history.map Built.name := by
  rw [List.map_map]
  exact List.map_congr_left fun b _ => EditedFile.name_registerAll_new b.name b.lines

/-- The names of a collection, in the order in which they came first. -/
theorem names_gathered (history : List Built) :
    (gathered history).names = (history.map Built.name).eraseDups := by
  rw [gathered, names_pushAll, names_files]
  rfl

/-- The lines under a name are those that were registered there. -/
theorem get?_gathered (history : List Built) (name : String) :
    (gathered history).byName.get? name =
      if name ∈ history.map Built.name then
        some (OrderedMap.empty.insertAll (registered name history))
      else none := by
  have hlines := insertAll_linesUnder_map Built.name Built.lines OrderedMap.empty name history
  rw [gathered, get?_pushAll, names_files]
  exact congrArg (fun lines => if name ∈ history.map Built.name then some lines else none) hlines

theorem mem_registered_numbers {name : String} {history : List Built} {n : Nat} :
    n ∈ (registered name history).map Prod.fst ↔
      ∃ b ∈ history, b.name = name ∧ n ∈ b.lines.map Prod.fst := by
  simp only [registered, List.map_flatMap, List.mem_flatMap, List.mem_filter, decide_eq_true_eq,
    and_assoc]

/-- The lines of a file that a collection has. -/
theorem lines_of_mem_gathered {history : List Built} {f : EditedFile}
    (h : f ∈ (gathered history).toList) :
    f.lines = OrderedMap.empty.insertAll (registered f.name history) := by
  have hfind := find?_eq_some_iff.2 ⟨h, rfl⟩
  rw [find?, get?_gathered] at hfind
  obtain ⟨lines, hlines, hfile⟩ := Option.map_eq_some_iff.1 hfind
  rw [← congrArg EditedFile.lines hfile]
  exact (Option.some.inj (Option.ite_none_right_eq_some.1 hlines).2).symm

/-- **What a collection remembers.** The names are distinct, in the order in which they were pushed
first, and the files stand in their order. A file is found exactly under a name that was pushed, and
it is the one that the list has. Its numbers are in the order in which they were registered first,
over all files of its name, and each number has the text that was registered last; a line is edited
exactly if one of these files registered its number. The file that was pushed last may be pushed
once more. -/
theorem gathered_exact (history : List Built) :
    (gathered history).names = (history.map Built.name).eraseDups ∧
      (gathered history).names.Nodup ∧
      (gathered history).toList.map EditedFile.name = (gathered history).names ∧
      (∀ name, (∃ f, (gathered history).find? name = some f) ↔ name ∈ history.map Built.name) ∧
      (∀ name f, (gathered history).find? name = some f ↔
        f ∈ (gathered history).toList ∧ f.name = name) ∧
      (∀ name, (gathered history).toList.find? (fun f => f.name = name) =
        (gathered history).find? name) ∧
      (∀ f ∈ (gathered history).toList,
        f.lines.keys = ((registered f.name history).map Prod.fst).eraseDups ∧
        (∀ n, f.lines.get? n = (registered f.name history).reverse.lookup n) ∧
        ∀ n, f.isEdited n = true ↔ ∃ b ∈ history, b.name = f.name ∧ n ∈ b.lines.map Prod.fst) ∧
      ∀ earlier last, history = earlier ++ [last] →
        (gathered history).push last.file = gathered history := by
  refine ⟨names_gathered history, OrderedMap.nodup_keys _, names_toList _, fun name => ?_,
    fun _ _ => find?_eq_some_iff, find?_toList _, fun f hf => ?_, ?_⟩
  · simp only [find?, get?_gathered]
    by_cases hname : name ∈ history.map Built.name
    · simp [hname]
    · simp [hname]
  · have hlines := lines_of_mem_gathered hf
    have hkeys : f.lines.keys = ((registered f.name history).map Prod.fst).eraseDups := by
      rw [hlines, OrderedMap.keys_insertAll]
      rfl
    refine ⟨hkeys, fun n => ?_, fun n => ?_⟩
    · rw [hlines, OrderedMap.get?_insertAll]
      exact Option.or_none
    · rw [EditedFile.isEdited, OrderedMap.contains_iff, hkeys, List.mem_eraseDups,
        mem_registered_numbers]
  · rintro earlier last rfl
    rw [gathered, List.map_append, pushAll_append]
    exact push_push _ _

/-- Two files, the first of which comes in two parts that register a line anew. -/
def interleaved : List Built :=
  [⟨"a.js", [(2, "x"), (1, "y"), (2, "z")]⟩, ⟨"b.js", []⟩, ⟨"a.js", [(3, "v"), (1, "w")]⟩]

theorem gathered_interleaved :
    ∃ f, (gathered interleaved).find? "a.js" = some f ∧ f.lines.keys = [2, 1, 3] ∧
      f.lines.get? 2 = some "z" ∧ f.lines.get? 1 = some "w" ∧ f.isEdited 3 = true ∧
      (gathered interleaved).names = ["a.js", "b.js"] ∧
      (gathered interleaved).push (Built.file ⟨"a.js", [(3, "v"), (1, "w")]⟩) =
        gathered interleaved := by
  obtain ⟨hnames, -, -, hfound, hfind, -, hlines, hlast⟩ := gathered_exact interleaved
  obtain ⟨f, hf⟩ := (hfound "a.js").2 (by decide)
  obtain ⟨hmem, hname⟩ := (hfind "a.js" f).1 hf
  obtain ⟨hkeys, hget, hedited⟩ := hlines f hmem
  rw [hname] at hkeys hget hedited
  refine ⟨f, hf, hkeys.trans (by decide), (hget 2).trans (by decide), (hget 1).trans (by decide),
    (hedited 3).2 (by decide), hnames.trans (by decide), hlast (interleaved.take 2) _ rfl⟩

end EditedFiles

end StandardsGate
