import StandardsGate.Proofs.Diff.Gathering
import StandardsGate.Proofs.Diff.Numbering
import StandardsGate.Proofs.Lint.Correlation
import StandardsGate.Proofs.Lint.Locating

/-!
Paths that git prints without quotes.

Such a path stands in its line as it is, with a tab behind it if there is a space in it. The name of
the file is the path without the white space at its end, as long as none stands in front. So two
paths are taken for one file exactly if they differ in nothing but white space at their ends, and it
is that name by which the content of the file is looked up.

Main definitions:

* `Diff.IsUnquoted`, `Diff.printed` — the paths that are printed without quotes, and how;
* `Diff.Prints` — whether a text has a line for a path;
* `Diff.keptName` — the path without the white space at its end;
* `Linting.LooksUp` — by which name the content of a file is looked up.

Main results:

* `Diff.nameOf_printed` — the name that is read from a line;
* `Diff.prints_render` — a diff as git prints it has the lines of its paths;
* `Diff.printed_paths` — **the names of files** are those of the lines, up to white space at the end.
-/

namespace StandardsGate

/-- Without white space in front only the end is trimmed. -/
theorem Text.trimChars_eq_trimEnd {cs : List Char}
    (h : ∀ c ∈ cs.head?, Text.isBlank c = false) : Text.trimChars cs = Text.trimEnd cs := by
  rw [Text.trimChars, Text.trimStart_eq_self h]

namespace Diff

/-- Whether a character is one of the control characters of ASCII. -/
def isControl (c : Char) : Bool := c.toNat < 0x20 || c.toNat == 0x7F

/-- Whether git prints a path without quotes. -/
def IsUnquoted (path : List Char) : Prop :=
  ∀ c ∈ path, isControl c = false ∧ c ≠ '"' ∧ c ≠ '\\'

instance decidableIsUnquoted (path : List Char) : Decidable (IsUnquoted path) :=
  List.decidableBAll _ path

/-- A path as git prints it: with a tab behind it if there is a space in it. -/
def printed (path : List Char) : List Char := path ++ if ' ' ∈ path then ['\t'] else []

/-- The path without the white space at its end. -/
def keptName (path : List Char) : String := String.ofList (Text.trimEnd path)

/-- Whether a text has a line for a path that is printed without quotes and does not begin with white
space. -/
structure Prints (text : String) (path : List Char) : Prop where
  unquoted : IsUnquoted path
  head : ∀ c ∈ path.head?, Text.isBlank c = false
  line : fileMarker ++ printed path ∈ Text.splitOn '\n' text.toList

theorem prints_iff {text : String} {path : List Char} :
    (IsUnquoted path ∧ path.head?.all (fun c => !Text.isBlank c) = true ∧
      fileMarker ++ printed path ∈ Text.splitOn '\n' text.toList) ↔ Prints text path := by
  have hhead : path.head?.all (fun c => !Text.isBlank c) = true ↔
      ∀ c ∈ path.head?, Text.isBlank c = false := by
    simp [Option.all_eq_true]
  rw [hhead]
  constructor
  · rintro ⟨hunquoted, hhead, hline⟩
    exact ⟨hunquoted, hhead, hline⟩
  · rintro ⟨hunquoted, hhead, hline⟩
    exact ⟨hunquoted, hhead, hline⟩

instance decidablePrints (text : String) (path : List Char) : Decidable (Prints text path) :=
  decidable_of_iff _ prints_iff

/-! ### Names -/

section Names

variable {path : List Char}

/-- Nothing but white space is printed behind a path. -/
theorem isBlank_of_mem_tab {c : Char} (hc : c ∈ if ' ' ∈ path then ['\t'] else []) :
    Text.isBlank c = true := by
  split at hc
  · rw [List.mem_singleton.1 hc]
    decide
  · cases hc

/-- **The name that is read from a line** is the path without the white space at its end. -/
theorem nameOf_printed (hunquoted : IsUnquoted path)
    (hhead : ∀ c ∈ path.head?, Text.isBlank c = false) : nameOf (printed path) = keptName path := by
  have hslash : '\\' ∉ Text.trimEnd path := fun hmem =>
    (hunquoted _ ((Text.trimEnd_isPrefix path).subset hmem)).2.2 rfl
  rw [nameOf, printed, Text.trimChars_append_blanks fun c => isBlank_of_mem_tab,
    Text.trimChars_eq_trimEnd hhead, Path.slashed_eq_self hslash, keptName]

/-- The name is the path exactly if no white space stands at its end. -/
theorem keptName_eq_iff (hhead : ∀ c ∈ path.head?, Text.isBlank c = false) :
    keptName path = String.ofList path ↔ ∀ c ∈ path.getLast?, Text.isBlank c = false := by
  rw [keptName, String.ofList_inj, ← Text.trimChars_eq_trimEnd hhead, Text.trimChars_eq_self_iff]
  exact and_iff_right hhead

end Names

/-- A diff as git prints it has a line for each of its paths. -/
theorem prints_render {cs : List Change} {c : Change} (hc : c ∈ cs)
    (hunquoted : IsUnquoted c.path.chars)
    (hhead : ∀ b ∈ c.path.chars.head?, Text.isBlank b = false) :
    Prints (Change.render cs) c.path.chars where
  unquoted := hunquoted
  head := hhead
  line := by
    have hwritten : c.writtenPath.chars = printed c.path.chars := by
      unfold Change.writtenPath printed
      split <;> simp
    have hline : fileMarker ++ printed c.path.chars ∈ c.patch.rawLines := by
      rw [Patch.rawLines_of_some rfl, ← hwritten]
      exact List.mem_append_right _ List.mem_cons_self
    obtain ⟨l, hl, hchars⟩ := List.mem_map.1 hline
    rw [Change.render, Patch.textAll, String.toList_ofList, Text.splitOn_unlines, ← hchars]
    refine List.mem_append_left _ (List.mem_map_of_mem (List.mem_flatMap.2 ⟨c.patch, ?_, hl⟩))
    exact List.mem_map_of_mem hc

/-! ### Files -/

variable {text : String} {d : Diff} {path path' : List Char}

/-- A line for a path makes a file of its name. -/
theorem Prints.exists_find? (h : Prints text path) (hparse : parse text = .ok d) :
    ∃ f, d.files.find? (keptName path) = some f := by
  have hline : fileMarker ++ printed path ++ [] ∈ Text.splitOn '\n' text.toList := by
    rw [List.append_nil]
    exact h.line
  obtain ⟨f, hf, hname⟩ := exists_mem_of_parse hparse (by simp) hline
  rw [nameOf_printed h.unquoted h.head] at hname
  exact ⟨f, EditedFiles.find?_eq_some_iff.2 ⟨hf, hname⟩⟩

/-- The sections of a line belong to the file of its name. -/
theorem Prints.mem_sectionsOf (h : Prints text path) {s : Section} (hs : s ∈ sectionsIn text)
    (hpath : s.path = printed path) : s ∈ sectionsOf (keptName path) text := by
  refine List.mem_filter.2 ⟨hs, decide_eq_true ?_⟩
  rw [← nameOf_printed h.unquoted h.head, ← hpath]
  rfl

/-- Two names find one file exactly if the paths differ in nothing but white space at the end. -/
theorem eq_iff_trimEnd_eq {f f' : EditedFile} (hf : d.files.find? (keptName path) = some f)
    (hf' : d.files.find? (keptName path') = some f') :
    f' = f ↔ Text.trimEnd path' = Text.trimEnd path := by
  constructor
  · rintro rfl
    have hname := (EditedFiles.find?_eq_some_iff.1 hf).2
    rw [(EditedFiles.find?_eq_some_iff.1 hf').2] at hname
    exact String.ofList_injective hname
  · intro htrim
    rw [keptName, htrim] at hf'
    exact Option.some.inj (hf'.symm.trans hf)

end Diff

namespace Linting

/-- By which name the content of a file is looked up: the linter gets what the index has under the
name, and nothing if the index fails there; and git is asked for that name. -/
structure LooksUp (f : EditedFile) (name : String) : Prop where
  asks : ∀ (t : Script) (policy : FaultPolicy) (copy : Path) (h : Host) (log : List LintRequest),
    ∃ result requests,
      (lintFile t.collaborators policy copy f).run.run (h, log) = (result, (h, log ++ requests)) ∧
        (∀ e, t.index name = .error e → result = .error e ∧ requests = []) ∧
        ∀ content, t.index name = .ok content → requests = [⟨content, copy, name⟩]
  git : ∀ root : Path, Git.stagedContent root f.name = Git.run root ["show", ":" ++ name]

/-- The content of a file is looked up by its name. -/
theorem looksUp_name (f : EditedFile) : LooksUp f f.name where
  asks t policy copy h log := by
    rw [run_lintFile]
    cases hindex : t.index f.name with
    | error e => exact ⟨.error e, [], by simp, by simp, by simp⟩
    | ok content =>
        cases hanswer : t.answers log.length with
        | error e => exact ⟨_, [⟨content, copy, f.name⟩], rfl, by simp, by simp⟩
        | ok answer => exact ⟨_, [⟨content, copy, f.name⟩], rfl, by simp, by simp⟩
  git _ := rfl

end Linting

namespace Diff

/-- **The names of files.** There is a diff exactly if the numbers of all added lines have 64 bits.
Then every line for a path that is printed without quotes and does not begin with white space has a
file. Its name is the path without the white space at its end, and so the path itself exactly if there
is none. The file has the added lines of all sections of its name, those of the line among them. Two
such lines have one file exactly if their paths differ in nothing but white space at the end. The
content of the file is looked up by its name. -/
theorem printed_paths (text : String) :
    ((∃ d, parse text = .ok d) ↔ ∀ s ∈ sectionsIn text, s.Fits) ∧
      ∀ d, parse text = .ok d → ∀ path, Prints text path →
        ∃ f, d.files.find? (keptName path) = some f ∧ f.name = keptName path ∧
          (f.name = String.ofList path ↔ ∀ c ∈ path.getLast?, Text.isBlank c = false) ∧
          f.lines = OrderedMap.empty.insertAll (additions f.name text) ∧
          (∀ s ∈ sectionsIn text, s.path = printed path → s ∈ sectionsOf f.name text) ∧
          (∀ path', Prints text path' → ∃ f', d.files.find? (keptName path') = some f' ∧
            (f' = f ↔ Text.trimEnd path' = Text.trimEnd path)) ∧
          Linting.LooksUp f (keptName path) := by
  refine ⟨exists_parse_iff text, fun d hparse path hprints => ?_⟩
  obtain ⟨f, hfind⟩ := hprints.exists_find? hparse
  obtain ⟨hf, hname⟩ := EditedFiles.find?_eq_some_iff.1 hfind
  refine ⟨f, hfind, hname, ?_, lines_eq_insertAll hparse hf, fun s hs hpath => ?_,
    fun path' hprints' => ?_, ?_⟩
  · rw [hname]
    exact keptName_eq_iff hprints.head
  · rw [hname]
    exact hprints.mem_sectionsOf hs hpath
  · obtain ⟨f', hfind'⟩ := hprints'.exists_find? hparse
    exact ⟨f', hfind', eq_iff_trimEnd_eq hfind hfind'⟩
  · rw [← hname]
    exact Linting.looksUp_name f

/-- Two files, one of them with a space in its path. -/
def spacedText : String :=
  "+++ b/dir/my file.js\t\n@@ -0,0 +1 @@\n+x\n+++ b/dir/my.js\n@@ -0,0 +1 @@\n+y\n"

def spacedPath : List Char := "dir/my file.js".toList

def plainPath : List Char := "dir/my.js".toList

theorem spacedText_evaluated :
    Prints spacedText spacedPath ∧ Prints spacedText plainPath ∧
      (∀ s ∈ sectionsIn spacedText, ∀ h ∈ s.hunks, h.Fits) ∧
      Text.trimEnd spacedPath = spacedPath ∧ Text.trimEnd plainPath = plainPath ∧
      plainPath ≠ spacedPath := by
  decide +kernel

/-- Both paths are names of files, and of two files. -/
theorem printed_paths_spaced :
    Prints spacedText spacedPath ∧ Prints spacedText plainPath ∧
      ∃ d, parse spacedText = .ok d ∧ ∃ f ∈ d.files.toList, ∃ f' ∈ d.files.toList,
        f.name = "dir/my file.js" ∧ f'.name = "dir/my.js" ∧ f' ≠ f ∧
          Linting.LooksUp f "dir/my file.js" := by
  obtain ⟨hspaced, hplain, hfits, hkept, hkept', hne⟩ := spacedText_evaluated
  obtain ⟨hexists, hfiles⟩ := printed_paths spacedText
  obtain ⟨d, hparse⟩ := hexists.2 hfits
  obtain ⟨f, hfind, hname, -, -, -, hother, hlooks⟩ := hfiles d hparse spacedPath hspaced
  obtain ⟨f', hfind', hiff⟩ := hother plainPath hplain
  obtain ⟨hf, -⟩ := EditedFiles.find?_eq_some_iff.1 hfind
  obtain ⟨hf', hname'⟩ := EditedFiles.find?_eq_some_iff.1 hfind'
  rw [hkept, hkept'] at hiff
  rw [keptName, hkept] at hname hlooks
  rw [keptName, hkept'] at hname'
  exact ⟨hspaced, hplain, d, hparse, f, hf, f', hf', hname, hname', mt hiff.1 hne, hlooks⟩

/-- Two files, one of them with a space at the end of its path. -/
def trailingText : String :=
  "+++ b/a.js\n@@ -0,0 +1 @@\n+x\n+++ b/a.js \t\n@@ -0,0 +1 @@\n+y\n"

/-- **White space at the end of a path is lost**, and two files become one. -/
theorem merged_trailing :
    Prints trailingText "a.js".toList ∧ Prints trailingText "a.js ".toList ∧
      (parse trailingText).map
          (fun d => d.files.toList.map fun f => (f.name, f.lines.entries)) =
        .ok [("a.js", [(1, "y")])] ∧
      ¬ ∀ text d path, parse text = .ok d → Prints text path →
        ∃ f ∈ d.files.toList, f.name = String.ofList path := by
  have hfiles : (parse trailingText).map
      (fun d => d.files.toList.map fun f => (f.name, f.lines.entries)) =
        .ok [("a.js", [(1, "y")])] := by
    decide +kernel
  have hprints : Prints trailingText "a.js ".toList := by decide +kernel
  refine ⟨by decide +kernel, hprints, hfiles, fun h => ?_⟩
  obtain ⟨d, hd⟩ : ∃ d, parse trailingText = .ok d := by
    cases hparse : parse trailingText with
    | ok d => exact ⟨d, rfl⟩
    | error e =>
        rw [hparse] at hfiles
        cases hfiles
  obtain ⟨f, hf, hname⟩ := h trailingText d "a.js ".toList hd hprints
  rw [hd] at hfiles
  have hmem : (f.name, f.lines.entries) ∈ [("a.js", [(1, "y")])] := by
    rw [← Except.ok.inj hfiles]
    exact List.mem_map.2 ⟨f, hf, rfl⟩
  rw [hname] at hmem
  simp at hmem

end Diff

end StandardsGate
