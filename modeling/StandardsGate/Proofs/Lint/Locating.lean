import StandardsGate.Lint.Report
import StandardsGate.Proofs.Diff.AddedText
import StandardsGate.Proofs.Diff.Rendering
import StandardsGate.Proofs.Path
import StandardsGate.Proofs.Run.Locations
import StandardsGate.Proofs.Staging.Graph
import StandardsGate.Proofs.Text.Blank

/-!
The names of reported files.

A linter reports a file by an absolute path, and a diff names it by a path below the root of the
repository. A reported path is read component by component: what is left behind the root, or behind the
place that the root leads to, is the name. It is the name that the diff has for the file, unless white
space stands at an end of the path, which a diff does not keep.

Main definitions:

* `Path.IsOrdinary` — a relative path of names;
* `Path.IsBelow` — a directory, slashes and a relative path, put one behind the other;
* `Path.LiesUnder` — whether a path begins with the components of another one.

Main results:

* `Path.below?_of_isBelow` — **what is left of a path behind its directory**;
* `Diff.names_of_parse` — the names in a diff;
* `relativize_meets` — **reported paths meet the names in a diff**.
-/

namespace StandardsGate

namespace Path

variable {p q root : Path}

/-- A relative path of names: none is empty, a dot or two dots. -/
def IsOrdinary (q : Path) : Prop := ∀ s ∈ Text.splitOn '/' q.chars, IsEntryName s

/-- Whether a path is written as a directory, slashes and a relative path. -/
def IsBelow (root q p : Path) : Prop :=
  ∃ gap, (∀ c ∈ gap, c = '/') ∧ (gap = [] → root.chars.getLast? = some '/') ∧
    p.chars = root.chars ++ gap ++ q.chars

/-- Whether a path begins with the components of another one. -/
def LiesUnder (p root : Path) : Prop := root.components <+: p.components

/-- The text of a path, with slashes in the place of backslashes. -/
def normalized (p : Path) : String := String.ofList (slashed p.chars)

theorem ofString_text (p : Path) : ofString p.text = p := by
  simp [ofString, text]

theorem IsOrdinary.isAbsolute (h : q.IsOrdinary) : q.isAbsolute = false := by
  unfold Path.isAbsolute
  cases hq : q.chars with
  | nil => rfl
  | cons c rest =>
      have hc : c ≠ '/' := by
        -- a path that begins at the root has an empty segment in front
        rintro rfl
        have hmem : ([] : List Char) ∈ Text.splitOn '/' q.chars := by
          rw [hq, Text.splitOn, if_pos rfl]
          exact List.mem_cons_self
        exact Bool.false_ne_true (h [] hmem).1.symm
      simpa using hc

theorem isBelow_join (hroot : root.isAbsolute = true) (hq : q.isAbsolute = false) :
    root.IsBelow q (root.join q) := by
  rcases join_cases root with ⟨hempty, -⟩ | ⟨init, hslash, hjoin⟩ | ⟨-, hjoin⟩
  · rw [Path.isAbsolute, hempty] at hroot
    cases hroot
  · exact ⟨[], by simp, fun _ => by rw [hslash, List.getLast?_concat], by simp [hjoin q hq, hslash]⟩
  · exact ⟨['/'], by simp, by simp, by simp [hjoin q hq]⟩

/-! ### What is left of a path -/

/-- Slashes behind a path add no step. -/
theorem filter_splitOn_append_slashes {gap : List Char} (h : ∀ c ∈ gap, c = '/') (cs : List Char) :
    (Text.splitOn '/' (cs ++ gap)).filter (fun s => !isIdle s) =
      (Text.splitOn '/' cs).filter fun s => !isIdle s := by
  induction gap generalizing cs with
  | nil => rw [List.append_nil]
  | cons c gap ih =>
      obtain ⟨rfl, hgap⟩ := List.forall_mem_cons.1 h
      have hempty : (Text.splitOn '/' gap).filter (fun s => !isIdle s) = [] := by
        simpa [Text.splitOn, isIdle] using ih hgap []
      rw [Text.splitOn_append_cons, List.filter_append, hempty, List.append_nil]

theorem exists_of_isAbsolute (h : p.isAbsolute = true) : ∃ rest, p.chars = '/' :: rest := by
  unfold Path.isAbsolute at h
  cases hp : p.chars with
  | nil =>
      rw [hp] at h
      cases h
  | cons c rest =>
      rw [hp] at h
      obtain rfl : c = '/' := by simpa using h
      exact ⟨rest, rfl⟩

/-- The segments of a path behind its directory come last. -/
theorem IsBelow.exists_splitOn (hroot : root.isAbsolute = true) (h : root.IsBelow q p) :
    ∃ rest front, p.chars = '/' :: rest ∧ front.filter (fun s => !isIdle s) = root.steps ∧
      Text.splitOn '/' rest = front ++ Text.splitOn '/' q.chars := by
  obtain ⟨gap, hgap, hlast, hp⟩ := h
  obtain ⟨more, hmore⟩ := exists_of_isAbsolute hroot
  -- a slash stands right in front of the relative path
  obtain ⟨init, hinit⟩ : ∃ init, root.chars ++ gap = init ++ ['/'] := by
    rcases List.eq_nil_or_concat gap with rfl | ⟨gap, c, rfl⟩
    · obtain ⟨init, hinit⟩ := List.getLast?_eq_some_iff.1 (hlast rfl)
      exact ⟨init, by rw [List.append_nil, hinit]⟩
    · rw [List.concat_eq_append] at hgap ⊢
      exact ⟨root.chars ++ gap, by rw [hgap c (by simp), List.append_assoc]⟩
  have hsteps : (Text.splitOn '/' init).filter (fun s => !isIdle s) = root.steps := by
    rw [steps, ← filter_splitOn_append_slashes hgap root.chars, hinit,
      filter_splitOn_append_slashes (by simp) init]
  rw [hinit, List.append_assoc] at hp
  cases init with
  | nil => exact ⟨q.chars, [], hp, hsteps, rfl⟩
  | cons c init =>
      obtain rfl : '/' = c := by
        rw [hmore] at hinit
        exact (List.cons.inj hinit).1
      rw [Text.splitOn, if_pos rfl, List.filter_cons_of_neg (by decide)] at hsteps
      exact ⟨_, _, hp, hsteps, Text.splitOn_append_cons _ _ _⟩

theorem components_of_isAbsolute (h : p.isAbsolute = true) :
    p.components = .root :: p.steps.map stepComponent := by
  rw [components_eq, lead_eq_root_iff.2 h]
  rfl

theorem isSome_segmentComponent? (s : List Char) : (segmentComponent? s).isSome = !isIdle s := by
  unfold segmentComponent?
  cases isIdle s with
  | true => rfl
  | false => rw [if_neg Bool.false_ne_true]; split <;> rfl

/-- Dropping as many components as segments in front have leaves nothing of these but segments that
count for nothing. -/
theorem dropComponents_append (front back : List (List Char)) :
    ∃ idle, (∀ s ∈ idle, isIdle s = true) ∧
      dropComponents (front.filter fun s => !isIdle s).length (front ++ back) = idle ++ back := by
  induction front with
  | nil => exact ⟨[], by simp, by simp [dropComponents]⟩
  | cons s front ih =>
      obtain ⟨idle, hidle, hdrop⟩ := ih
      cases hs : isIdle s with
      | false =>
          refine ⟨idle, hidle, ?_⟩
          rw [List.filter_cons_of_pos (by simp [hs]), List.length_cons, List.cons_append,
            dropComponents, isSome_segmentComponent?, hs]
          exact hdrop
      | true =>
          rw [List.filter_cons_of_neg (by simp [hs]), List.cons_append]
          cases hcount : (front.filter fun s => !isIdle s).length with
          | zero =>
              -- nothing is left to drop, so the rest in front counts for nothing
              refine ⟨s :: front, ?_, by simp [dropComponents]⟩
              rw [List.length_eq_zero_iff, List.filter_eq_nil_iff] at hcount
              exact List.forall_mem_cons.2 ⟨hs, by simpa using hcount⟩
          | succ n =>
              refine ⟨idle, hidle, ?_⟩
              rw [dropComponents, isSome_segmentComponent?, hs, ← hcount]
              exact hdrop

/-- Segments of which none counts for nothing stay as they are. -/
theorem trimEnd_dropWhile_idle {idle back : List (List Char)} (hidle : ∀ s ∈ idle, isIdle s = true)
    (hback : ∀ s ∈ back, isIdle s = false) : trimEnd ((idle ++ back).dropWhile isIdle) = back := by
  have hdrop : ∀ segments : List (List Char), (∀ s ∈ segments, isIdle s = false) →
      segments.dropWhile isIdle = segments := by
    intro segments hsegments
    cases segments with
    | nil => rfl
    | cons s rest => exact List.dropWhile_cons_of_neg (by simp [hsegments s])
  rw [List.dropWhile_append_of_pos hidle, hdrop back hback, trimEnd,
    hdrop back.reverse fun s hs => hback s (List.mem_reverse.1 hs), List.reverse_reverse]

theorem below?_of_liesUnder (hroot : root.isAbsolute = true) {rest : List Char}
    (hp : p.chars = '/' :: rest) (h : p.LiesUnder root) :
    p.below? root = some ⟨Text.joinWith ['/'] (trimEnd
      ((dropComponents root.steps.length (Text.splitOn '/' rest)).dropWhile isIdle))⟩ := by
  have hunder : root.components.isPrefixOf p.components = true := List.isPrefixOf_iff_prefix.2 h
  rw [components_of_isAbsolute hroot] at hunder
  unfold below?
  simp only [components_of_isAbsolute hroot, hunder, split, hp, lead, List.length_cons,
    List.length_map, Nat.add_sub_cancel]
  rfl

theorem below?_of_not_liesUnder (h : ¬ p.LiesUnder root) : p.below? root = none := by
  have hnot : root.components.isPrefixOf p.components = false := by
    rw [← Bool.not_eq_true, List.isPrefixOf_iff_prefix]
    exact h
  simp [below?, hnot]

/-- **What is left of a path behind its directory** is the path that was put there. -/
theorem below?_of_isBelow (hroot : root.isAbsolute = true) (hq : q.IsOrdinary)
    (h : root.IsBelow q p) : p.below? root = some q := by
  obtain ⟨rest, front, hp, hfront, hsplit⟩ := h.exists_splitOn hroot
  have hsteps : p.steps = root.steps ++ q.steps := by
    rw [steps, hp, Text.splitOn, if_pos rfl, hsplit, List.filter_cons_of_neg (by decide),
      List.filter_append, hfront]
    rfl
  have hunder : p.LiesUnder root := by
    rw [LiesUnder, components_of_isAbsolute hroot,
      components_of_isAbsolute (p := p) (by simp [Path.isAbsolute, hp]), hsteps, List.map_append]
    exact ⟨_, rfl⟩
  obtain ⟨idle, hidle, hdrop⟩ := dropComponents_append front (Text.splitOn '/' q.chars)
  rw [below?_of_liesUnder hroot hp hunder, hsplit, ← hfront, hdrop,
    trimEnd_dropWhile_idle hidle fun s hs => (hq s hs).1, Text.joinWith_splitOn]

end Path

namespace Text

theorem trimChars_sublist (cs : List Char) : (trimChars cs).Sublist cs :=
  (trimEnd_isPrefix _).sublist.trans (List.dropWhile_suffix _).sublist

end Text

namespace Diff

/-- **The names in a diff** are those of the lines that begin a section. -/
theorem names_of_parse {text : String} {d : Diff} (h : parse text = .ok d) :
    d.files.names =
      (((Text.splitOn '\n' text.toList).filterMap pathOf?).map nameOf).eraseDups := by
  have hfile : ∀ s : Section, s.toFile.name = nameOf s.path := fun s =>
    EditedFile.name_registerAll_new ..
  rw [files_of_parse h, EditedFiles.names_pushAll, ← map_path_sections, List.map_map, List.map_map]
  exact congrArg List.eraseDups (List.map_congr_left fun s _ => hfile s)

/-- A file whose line begins a section is in the diff, also if white space follows its path. -/
theorem exists_mem_of_parse {text : String} {d : Diff} (h : parse text = .ok d)
    {path blanks : List Char} (hblanks : ∀ c ∈ blanks, Text.isBlank c = true)
    (hline : fileMarker ++ path ++ blanks ∈ Text.splitOn '\n' text.toList) :
    ∃ f ∈ d.files.toList, f.name = nameOf path := by
  have hpath : pathOf? (fileMarker ++ path ++ blanks) = some (path ++ blanks) := by
    rw [List.append_assoc, pathOf?, if_pos (List.isPrefixOf_iff_prefix.2 ⟨_, rfl⟩), List.drop_left]
  have hname : nameOf (path ++ blanks) = nameOf path := by
    rw [nameOf, Text.trimChars_append_blanks hblanks, nameOf]
  have hmem : nameOf path ∈ d.files.names := by
    rw [names_of_parse h, List.mem_eraseDups]
    exact List.mem_map.2 ⟨path ++ blanks, List.mem_filterMap.2 ⟨_, hline, hpath⟩, hname⟩
  rw [← EditedFiles.names_toList] at hmem
  exact List.mem_map.1 hmem

/-- The name in a diff is the path itself exactly if no white space stands at its ends. -/
theorem nameOf_eq_normalized_iff {q : Path} :
    nameOf q.chars = q.normalized ↔
      (∀ c ∈ q.chars.head?, Text.isBlank c = false) ∧
        ∀ c ∈ q.chars.getLast?, Text.isBlank c = false := by
  rw [← Text.trimChars_eq_self_iff]
  constructor
  · intro h
    have hlength := congrArg (fun s => s.toList.length) h
    refine (Text.trimChars_sublist q.chars).eq_of_length ?_
    simpa [nameOf, Path.normalized, Path.slashed] using hlength
  · intro h
    rw [nameOf, h]
    rfl

end Diff

/-! ### Names of reported files -/

section Relativize

variable {h : Host} {p q root : Path}

theorem relativize_of_relative (hp : p.isAbsolute = false) :
    relativize h p.text root = p.normalized := by
  simp [relativize, Path.ofString_text, hp, Path.normalized]

theorem relativize_of_below? (hp : p.isAbsolute = true) (hbelow : p.below? root = some q) :
    relativize h p.text root = q.normalized := by
  simp [relativize, Path.ofString_text, hp, hbelow, Path.normalized]

theorem relativize_of_canonical (hp : p.isAbsolute = true) (hroot : p.below? root = none) {c : Path}
    (hc : h.files.canonical? h.directory root = some c) :
    relativize h p.text root = ((p.below? c).getD p).normalized := by
  simp [relativize, Path.ofString_text, hp, hroot, hc, Path.normalized]

theorem relativize_of_lost (hp : p.isAbsolute = true) (hroot : p.below? root = none)
    (hc : h.files.canonical? h.directory root = none) :
    relativize h p.text root = p.normalized := by
  simp [relativize, Path.ofString_text, hp, hroot, hc, Path.normalized]

/-- The paths by which a linter may report a file: the path below the root of the repository itself, or
behind the root, or behind the place that the root leads to, as long as that does not look like a path
behind the root. -/
inductive Reports (h : Host) (root q : Path) : Path → Prop
  | relative : Reports h root q q
  | below {p : Path} : root.IsBelow q p → Reports h root q p
  | resolved {c p : Path} : h.files.canonical? h.directory root = some c → c.IsBelow q p →
      ¬ p.LiesUnder root → Reports h root q p

theorem isAbsolute_of_isBelow (hroot : root.isAbsolute = true) (hp : root.IsBelow q p) :
    p.isAbsolute = true := by
  obtain ⟨rest, -, hrest, -⟩ := hp.exists_splitOn hroot
  simp [Path.isAbsolute, hrest]

theorem isAbsolute_of_canonical? {t : FileTree} {cwd : Location} {c : Path}
    (hc : t.canonical? cwd p = some c) : c.isAbsolute = true := by
  unfold FileTree.canonical? at hc
  split at hc
  · obtain rfl := Option.some.inj hc
    exact Location.isAbsolute_path _
  · cases hc

/-- **A reported path comes to the path below the root.** -/
theorem relativize_of_reports (hroot : root.isAbsolute = true) (hq : q.IsOrdinary)
    (hp : Reports h root q p) : relativize h p.text root = q.normalized := by
  cases hp with
  | relative => exact relativize_of_relative hq.isAbsolute
  | below hbelow =>
      exact relativize_of_below? (isAbsolute_of_isBelow hroot hbelow)
        (Path.below?_of_isBelow hroot hq hbelow)
  | resolved hc hbelow hnot =>
      have habsolute := isAbsolute_of_canonical? hc
      rw [relativize_of_canonical (isAbsolute_of_isBelow habsolute hbelow)
        (Path.below?_of_not_liesUnder hnot) hc, Path.below?_of_isBelow habsolute hq hbelow,
        Option.getD_some]

/-- A path that lies elsewhere only gets slashes. -/
theorem relativize_of_not_liesUnder (hp : p.isAbsolute = true) (hroot : ¬ p.LiesUnder root)
    (hcanonical : ∀ c, h.files.canonical? h.directory root = some c → ¬ p.LiesUnder c) :
    relativize h p.text root = p.normalized := by
  have hnone := Path.below?_of_not_liesUnder hroot
  cases hc : h.files.canonical? h.directory root with
  | none => exact relativize_of_lost hp hnone hc
  | some c =>
      rw [relativize_of_canonical hp hnone hc, Path.below?_of_not_liesUnder (hcanonical c hc),
        Option.getD_none]

end Relativize

/-- **Reported paths meet the names in a diff.** For every spelling of an absolute root and every
relative path of names, the paths by which the file may be reported all come to the path itself, with
slashes. A diff with a line for the file has it under that name exactly if no white space stands at the
ends of the path. A path that lies neither under the root nor under the place that the root leads to
only gets slashes. -/
theorem relativize_meets (h : Host) {root : Path} (hroot : root.isAbsolute = true) :
    (∀ q : Path, q.IsOrdinary →
      (∀ p, Reports h root q p → relativize h p.text root = q.normalized) ∧
        Reports h root q (root.join q) ∧
        (∀ text d blanks, Diff.parse text = .ok d → (∀ c ∈ blanks, Text.isBlank c = true) →
          Diff.fileMarker ++ q.chars ++ blanks ∈ Text.splitOn '\n' text.toList →
          ∃ f ∈ d.files.toList, f.name = Diff.nameOf q.chars) ∧
        (Diff.nameOf q.chars = q.normalized ↔
          (∀ c ∈ q.chars.head?, Text.isBlank c = false) ∧
            ∀ c ∈ q.chars.getLast?, Text.isBlank c = false)) ∧
      ∀ p : Path, p.isAbsolute = true → ¬ p.LiesUnder root →
        (∀ c, h.files.canonical? h.directory root = some c → ¬ p.LiesUnder c) →
        relativize h p.text root = p.normalized := by
  refine ⟨fun q hq => ⟨fun p hp => relativize_of_reports hroot hq hp,
    .below (Path.isBelow_join hroot hq.isAbsolute),
    fun text d blanks hparse hblanks hline => Diff.exists_mem_of_parse hparse hblanks hline,
    Diff.nameOf_eq_normalized_iff⟩, fun p hp hnot hcanonical => ?_⟩
  exact relativize_of_not_liesUnder hp hnot hcanonical

/-- So the messages about a file of a diff can be kept, if its path has no white space at its ends. -/
theorem exists_findFile_of_reports {h : Host} {root p q : Path} (hroot : root.isAbsolute = true)
    (hq : q.IsOrdinary) (hends : Text.trimChars q.chars = q.chars) (hp : Reports h root q p)
    {text : String} {d : Diff} {blanks : List Char} (hparse : Diff.parse text = .ok d)
    (hblanks : ∀ c ∈ blanks, Text.isBlank c = true)
    (hline : Diff.fileMarker ++ q.chars ++ blanks ∈ Text.splitOn '\n' text.toList) :
    ∃ f ∈ d.files.toList, findFile d.files.toList (relativize h p.text root) = .ok f := by
  obtain ⟨f, hf, hname⟩ := Diff.exists_mem_of_parse hparse hblanks hline
  rw [relativize_of_reports hroot hq hp, Path.normalized]
  rw [Diff.nameOf, hends] at hname
  unfold findFile
  cases hfind : d.files.toList.find? (·.name == String.ofList (Path.slashed q.chars)) with
  | none => exact absurd hname (by simpa using List.find?_eq_none.1 hfind f hf)
  | some g => exact ⟨g, List.mem_of_find?_eq_some hfind, rfl⟩

/-! ### Paths of some files -/

section Linked

/-- A repository that is reached through a link. -/
def linkedRepository : FileTree :=
  (((FileTree.empty.put [['v']] .directory).put [['p']] .directory).put [['p'], ['r']] .directory).put
    [['v'], ['r']] (.link "/p/r")

theorem linkedRepository_evaluated :
    linkedRepository.canonical? [['w']] "/v/r/" = some "/p/r" ∧
      (Diff.parse "+++ b/a.js \t\n@@ -0,0 +1 @@\n+x\n").map (fun d => d.files.names) =
        .ok ["a.js"] := by
  decide +kernel

theorem isOrdinary_linked : Path.IsOrdinary "src\\a b.js" ∧ Path.IsOrdinary "a.js " := by
  unfold Path.IsOrdinary Path.IsEntryName
  decide

/-- A path that was resolved, and one in a neighbour of the root. -/
theorem relativize_meets_linked :
    Path.isAbsolute "/v/r/" = true ∧
      relativize (stagingHost linkedRepository) "/p/r/src\\a b.js" "/v/r/" = "src/a b.js" ∧
      relativize (stagingHost linkedRepository) "/v/r2/a.js" "/v/r/" = "/v/r2/a.js" := by
  have hcanonical := linkedRepository_evaluated.1
  have hroot : Path.isAbsolute "/v/r/" = true := by decide
  obtain ⟨hbelow, helsewhere⟩ := relativize_meets (stagingHost linkedRepository) hroot
  obtain ⟨hreports, -⟩ := hbelow "src\\a b.js" isOrdinary_linked.1
  refine ⟨hroot, hreports _ (.resolved hcanonical ⟨['/'], by simp, by simp, by decide⟩ ?_),
    helsewhere "/v/r2/a.js" (by decide) ?_ fun c hc => ?_⟩
  · unfold Path.LiesUnder
    decide
  · unfold Path.LiesUnder
    decide
  · obtain rfl := Option.some.inj (hc.symm.trans hcanonical)
    unfold Path.LiesUnder
    decide

/-- A diff does not keep a blank at the end of a path, which a reported path has. -/
theorem relativize_ne_nameOf_blank :
    Path.IsOrdinary "a.js " ∧
      (Diff.parse "+++ b/a.js \t\n@@ -0,0 +1 @@\n+x\n").map (fun d => d.files.names) =
        .ok ["a.js"] ∧
      relativize (stagingHost linkedRepository) "/v/r/a.js " "/v/r/" = "a.js " ∧
      ¬ ∀ q : Path, q.IsOrdinary → Diff.nameOf q.chars = q.normalized := by
  refine ⟨isOrdinary_linked.2, linkedRepository_evaluated.2, ?_, fun h => ?_⟩
  · exact relativize_of_reports (q := "a.js ") (by decide) isOrdinary_linked.2
      (.below ⟨[], by simp, by decide, by decide⟩)
  · exact absurd (h "a.js " isOrdinary_linked.2) (by decide)

end Linked

end StandardsGate
