import StandardsGate.OrderedMap
import StandardsGate.Path

/-!
Files that a commit edits.

Only added lines are kept, under their numbers in the new file. A number that is registered again
keeps its place and gets the new text; a file that comes again adds its lines to those it has.

Main definitions:

* `EditedFile` — the name of a file and its added lines;
* `EditedFiles` — the files of a commit, in the order in which they came first;
* `EditedFile.addedText` — the text that checkers search.

Main results:

* `EditedFiles.name_mem_push` — which files there are after another one came.
-/

namespace StandardsGate

/-- Added lines by number, in the order of first registration. -/
abbrev AddedLines := OrderedMap Nat String

/-- The name of a file, relative to the repository, and the lines added to it. -/
structure EditedFile where
  name : String
  lines : AddedLines
deriving Inhabited

namespace EditedFile

/-- A file without added lines. -/
def new (name : String) : EditedFile := ⟨name, ∅⟩

/-- Registers an added line. -/
def register (f : EditedFile) (number : Nat) (text : String) : EditedFile :=
  { f with lines := f.lines.insert number text }

/-- Registers lines, one after the other. -/
def registerAll (f : EditedFile) (lines : List (Nat × String)) : EditedFile :=
  lines.foldl (fun f l => f.register l.1 l.2) f

/-- Whether a line was added. -/
def isEdited (f : EditedFile) (number : Nat) : Bool := f.lines.contains number

/-- The added lines one after the other, with nothing between them. -/
def addedText (f : EditedFile) : List Char := f.lines.values.flatMap String.toList

/-- The extension of the name, without its dot. -/
def extension? (f : EditedFile) : Option String :=
  (Path.ofString f.name).extension?.map String.ofList

end EditedFile

/-- Files with distinct names, in the order in which they came first. -/
structure EditedFiles where
  byName : OrderedMap String AddedLines
deriving Inhabited

namespace EditedFiles

/-- No files. -/
def empty : EditedFiles := ⟨∅⟩

instance : EmptyCollection EditedFiles := ⟨empty⟩

/-- The files. -/
def toList (fs : EditedFiles) : List EditedFile := fs.byName.entries.map fun e => ⟨e.1, e.2⟩

/-- The number of files. -/
def size (fs : EditedFiles) : Nat := fs.byName.size

/-- The file of a name. -/
def find? (fs : EditedFiles) (name : String) : Option EditedFile :=
  (fs.byName.get? name).map fun lines => ⟨name, lines⟩

/-- Adds a file. If there is one of its name, that one gets its lines. -/
def push (fs : EditedFiles) (f : EditedFile) : EditedFiles :=
  match fs.find? f.name with
  | some old => ⟨fs.byName.insert f.name (old.registerAll f.lines.entries).lines⟩
  | none => ⟨fs.byName.insert f.name f.lines⟩

/-- Adds files, one after the other. -/
def pushAll (fs : EditedFiles) (added : List EditedFile) : EditedFiles := added.foldl push fs

/-- The names, in the order in which they came first. -/
def names (fs : EditedFiles) : List String := fs.byName.keys

theorem names_push (fs : EditedFiles) (f : EditedFile) :
    (fs.push f).names = if f.name ∈ fs.names then fs.names else fs.names ++ [f.name] := by
  unfold push names
  split <;> exact OrderedMap.keys_insert ..

theorem name_mem_push (fs : EditedFiles) (f : EditedFile) (name : String) :
    name ∈ (fs.push f).names ↔ name = f.name ∨ name ∈ fs.names := by
  rw [names_push]
  split
  · constructor
    · exact Or.inr
    · rintro (rfl | h) <;> assumption
  · simp [or_comm]

end EditedFiles

end StandardsGate
