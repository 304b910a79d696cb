import StandardsGate.Diff.EditedFile
import StandardsGate.Proofs.OrderedMap

/-!
Files that come one after the other.

What a collection of edited files holds after some files were pushed: the names in the order in
which they came first, and under each name the lines of all files of that name, registered in the
order in which they came. Files may therefore be collected on their own first and pushed later.

Main definitions:

* `EditedFiles.linesUnder` — the lines of all files of a name, in order.

Main results:

* `EditedFiles.names_pushAll`, `EditedFiles.get?_pushAll` — **what a collection holds**;
* `EditedFiles.pushAll_toList_pushAll` — files may be collected on their own first;
* `EditedFiles.toList_pushAll_of_nodup` — files of new names stay as they are.
-/

namespace StandardsGate

namespace EditedFile

theorem name_registerAll (f : EditedFile) (ls : List (Nat × String)) :
    (f.registerAll ls).name = f.name := by
  induction ls generalizing f with
  | nil => rfl
  | cons l ls ih => exact ih (f.register l.1 l.2)

theorem lines_registerAll (f : EditedFile) (ls : List (Nat × String)) :
    (f.registerAll ls).lines = f.lines.insertAll ls := by
  induction ls generalizing f with
  | nil => rfl
  | cons l ls ih => exact ih (f.register l.1 l.2)

@[simp] theorem name_registerAll_new (name : String) (ls : List (Nat × String)) :
    ((new name).registerAll ls).name = name := name_registerAll _ ls

/-- The lines of a new file whose numbers are distinct stay as they were registered. -/
theorem entries_registerAll_new {ls : List (Nat × String)} (h : (ls.map Prod.fst).Nodup)
    (name : String) : ((new name).registerAll ls).lines.entries = ls := by
  rw [lines_registerAll]
  exact OrderedMap.entries_insertAll_of_nodup (m := OrderedMap.empty) h

end EditedFile

namespace EditedFiles

/-- The lines of all files of a name, in the order in which they came. -/
def linesUnder (name : String) (fs : List EditedFile) : List (Nat × String) :=
  (fs.filter fun f => f.name = name).flatMap fun f => f.lines.entries

theorem linesUnder_cons_self (f : EditedFile) (fs : List EditedFile) :
    linesUnder f.name (f :: fs) = f.lines.entries ++ linesUnder f.name fs := by
  simp [linesUnder]

theorem linesUnder_cons_of_ne {name : String} {f : EditedFile} (h : f.name ≠ name)
    (fs : List EditedFile) : linesUnder name (f :: fs) = linesUnder name fs := by
  simp [linesUnder, h]

/-- Inserting the lines of all files of a name inserts what was registered in them. -/
theorem insertAll_linesUnder_map {β : Type} (name : β → String) (lines : β → List (Nat × String))
    (m : AddedLines) (key : String) (bs : List β) :
    m.insertAll (linesUnder key
        (bs.map fun b => (EditedFile.new (name b)).registerAll (lines b))) =
      m.insertAll ((bs.filter fun b => name b = key).flatMap lines) := by
  induction bs generalizing m with
  | nil => rfl
  | cons b bs ih =>
      have hname := EditedFile.name_registerAll_new (name b) (lines b)
      by_cases h : name b = key
      · subst h
        have hentries : ((EditedFile.new (name b)).registerAll (lines b)).lines =
            OrderedMap.empty.insertAll (lines b) := EditedFile.lines_registerAll ..
        have hfirst := linesUnder_cons_self ((EditedFile.new (name b)).registerAll (lines b))
          (bs.map fun b => (EditedFile.new (name b)).registerAll (lines b))
        rw [hname] at hfirst
        rw [List.map_cons, hfirst, OrderedMap.insertAll_append, hentries,
          OrderedMap.insertAll_entries_insertAll, ih, List.filter_cons_of_pos (by simp),
          List.flatMap_cons, OrderedMap.insertAll_append]
      · rw [List.map_cons, linesUnder_cons_of_ne (by rwa [hname]), ih,
          List.filter_cons_of_neg (by simpa using h)]

theorem ext_byName {fs gs : EditedFiles} (h : fs.byName = gs.byName) : fs = gs := by
  cases fs
  cases gs
  cases h
  rfl

/-- Pushing a file registers its lines behind those that its name already has. -/
theorem byName_push (fs : EditedFiles) (f : EditedFile) :
    (fs.push f).byName =
      fs.byName.insert f.name (((fs.byName.get? f.name).getD ∅).insertAll f.lines.entries) := by
  unfold push find?
  cases fs.byName.get? f.name with
  | none =>
      change fs.byName.insert f.name f.lines =
        fs.byName.insert f.name ((OrderedMap.empty).insertAll f.lines.entries)
      rw [OrderedMap.insertAll_entries]
  | some old =>
      change fs.byName.insert f.name _ = fs.byName.insert f.name _
      rw [EditedFile.lines_registerAll]
      rfl

@[simp] theorem pushAll_nil (fs : EditedFiles) : fs.pushAll [] = fs := rfl

@[simp] theorem pushAll_cons (fs : EditedFiles) (f : EditedFile) (added : List EditedFile) :
    fs.pushAll (f :: added) = (fs.push f).pushAll added := rfl

theorem pushAll_append (fs : EditedFiles) (added more : List EditedFile) :
    fs.pushAll (added ++ more) = (fs.pushAll added).pushAll more := List.foldl_append

/-- **The names of a collection**: those before, and the new ones as they came first. -/
theorem names_pushAll (fs : EditedFiles) (added : List EditedFile) :
    (fs.pushAll added).names = (fs.names ++ added.map EditedFile.name).eraseDups := by
  induction added generalizing fs with
  | nil => simp [names, eraseDups_eq_self fs.byName.nodup_keys]
  | cons f added ih =>
      have hpush : (fs.push f).names = (fs.names ++ [f.name]).eraseDups := by
        rw [names, byName_push, OrderedMap.keys_insert_eq_eraseDups]
        rfl
      rw [pushAll_cons, ih, hpush, eraseDups_eraseDups_append]
      simp

/-- **The lines under a name**: those before, and the lines of all files of that name. -/
theorem get?_pushAll (fs : EditedFiles) (added : List EditedFile) (name : String) :
    (fs.pushAll added).byName.get? name =
      if name ∈ added.map EditedFile.name then
        some (((fs.byName.get? name).getD ∅).insertAll (linesUnder name added))
      else fs.byName.get? name := by
  induction added generalizing fs with
  | nil => simp
  | cons f added ih =>
      rw [pushAll_cons, ih, byName_push, OrderedMap.get?_insert]
      by_cases hf : name = f.name
      · subst hf
        rw [linesUnder_cons_self, OrderedMap.insertAll_append]
        by_cases hlater : f.name ∈ added.map EditedFile.name
        · simp [hlater]
        · have hnone : linesUnder f.name added = [] := by
            simp only [linesUnder, List.flatMap_eq_nil_iff, List.mem_filter, decide_eq_true_eq]
            rintro g ⟨hg, hname⟩
            exact absurd (List.mem_map.2 ⟨g, hg, hname⟩) hlater
          simp [hlater, hnone]
      · rw [linesUnder_cons_of_ne (Ne.symm hf), if_neg hf]
        simp [hf]

theorem names_toList (fs : EditedFiles) : fs.toList.map EditedFile.name = fs.names := by
  simp [toList, names, OrderedMap.keys, Function.comp_def]

/-- In a collection each name has one file, which holds all its lines. -/
theorem linesUnder_toList (fs : EditedFiles) (name : String) :
    linesUnder name fs.toList = ((fs.byName.get? name).getD ∅).entries := by
  unfold toList OrderedMap.get?
  have hdistinct := fs.byName.distinct
  generalize fs.byName.entries = es at hdistinct ⊢
  induction es with
  | nil => rfl
  | cons e es ih =>
      obtain ⟨key, lines⟩ := e
      obtain ⟨hkey, hes⟩ := List.nodup_cons.1 hdistinct
      rw [List.map_cons, List.lookup_cons]
      by_cases h : key = name
      · subst h
        have hnone : linesUnder key (es.map fun e => (⟨e.1, e.2⟩ : EditedFile)) = [] := by
          rw [ih hes, OrderedMap.lookup_eq_none_of_not_mem hkey]
          rfl
        rw [linesUnder_cons_self (⟨key, lines⟩ : EditedFile), hnone]
        simp
      · have hne : (name == key) = false := by simpa using Ne.symm h
        rw [linesUnder_cons_of_ne h, ih hes, hne]

/-- **Files may be collected on their own first**: pushing what they come to has the same
result. -/
theorem pushAll_toList_pushAll (fs : EditedFiles) (added : List EditedFile) :
    fs.pushAll ((∅ : EditedFiles).pushAll added).toList = fs.pushAll added := by
  have hnames : ((∅ : EditedFiles).pushAll added).names =
      (added.map EditedFile.name).eraseDups := names_pushAll ∅ added
  refine ext_byName (OrderedMap.ext_get? ?_ fun name => ?_)
  · change (fs.pushAll _).names = (fs.pushAll added).names
    rw [names_pushAll, names_pushAll, names_toList, hnames, eraseDups_append_eraseDups]
  · rw [get?_pushAll, get?_pushAll, names_toList, hnames, linesUnder_toList, get?_pushAll]
    by_cases h : name ∈ added.map EditedFile.name
    · rw [if_pos (List.mem_eraseDups.2 h), if_pos h, if_pos h]
      exact congrArg some (OrderedMap.insertAll_entries_insertAll _ _)
    · rw [if_neg (mt List.mem_eraseDups.1 h), if_neg h]

/-- **Files of new names stay as they are.** -/
theorem toList_pushAll_of_nodup {fs : EditedFiles} {added : List EditedFile}
    (h : (fs.names ++ added.map EditedFile.name).Nodup) :
    (fs.pushAll added).toList = fs.toList ++ added := by
  induction added generalizing fs with
  | nil => simp
  | cons f added ih =>
      have hnew : f.name ∉ fs.byName.keys := by
        intro hf
        exact (List.nodup_append.1 h).2.2 _ hf _ (by simp) rfl
      have hnone : fs.byName.get? f.name = none := OrderedMap.lookup_eq_none_of_not_mem hnew
      have hnames : (fs.push f).names = fs.names ++ [f.name] := by
        rw [names_push]
        exact if_neg hnew
      have hpush : (fs.push f).toList = fs.toList ++ [f] := by
        rw [toList, byName_push, OrderedMap.entries_insert_of_not_mem hnew, hnone]
        simp only [Option.getD_none, List.map_append, List.map_cons, List.map_nil]
        rw [show (∅ : AddedLines) = OrderedMap.empty from rfl, OrderedMap.insertAll_entries]
        rfl
      rw [pushAll_cons, ih (by rw [hnames]; simpa using h), hpush]
      simp

end EditedFiles

end StandardsGate
