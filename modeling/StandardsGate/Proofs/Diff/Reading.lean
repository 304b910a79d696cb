import StandardsGate.Diff.Parse
import StandardsGate.Proofs.Diff.Collection
import StandardsGate.Proofs.Text.Lines

/-!
Reading a diff line by line.

The lines of a section are read one after the other, and all that is carried from line to line is
the number of the next added line. A line begins a hunk, is added, or is idle; an idle line changes
nothing wherever it stands. When lines are put behind others, what stands before their first file
goes to the last file of the lines in front, and nothing else happens between the two parts.

Main definitions:

* `Diff.Role`, `Diff.role` — what a line means in the section of a file;
* `Diff.readLine`, `Diff.numberAfter` — what one line says, and the number behind it;
* `Diff.Reading`, `Diff.readings` — what a diff says, section by section.

Main results:

* `Diff.readBody_append` — **reading goes line by line**;
* `Diff.cut_append` — where the lines go that stand between two files;
* `Diff.readings_append_of_idle` — **idle lines keep diffs apart**;
* `Diff.parseChars_eq_foldlM_readings` — the diff of a text in terms of what its sections say.
-/

namespace StandardsGate.Diff

open HunkHeader (isHeader newStart? numberLimit)

/-! ### What one line says -/

/-- What a line means in the section of a file. -/
inductive Role
  /-- It begins a hunk, at the number that it gives. -/
  | header (start : Option Nat)
  | added (text : List Char)
  | idle
deriving DecidableEq, Repr

/-- What a line means in the section of a file. -/
def role (line : List Char) : Role :=
  if isHeader line then .header (newStart? line)
  else match line with
    | '+' :: text => .added text
    | _ => .idle

theorem role_of_isHeader {line : List Char} (h : isHeader line = true) :
    role line = .header (newStart? line) := if_pos h

@[simp] theorem role_added (text : List Char) : role ('+' :: text) = .added text := rfl

theorem role_idle {line : List Char} (h : isHeader line = false)
    (hplus : ∀ text, line ≠ '+' :: text) : role line = .idle := by
  unfold role
  rw [if_neg (by simp [h])]
  split
  · rename_i text
    exact absurd rfl (hplus text)
  · rfl

theorem role_of_not_isHeader {line : List Char} (h : isHeader line = false) :
    role line = .idle ∨ ∃ text, role line = .added text := by
  by_cases hplus : ∃ text, line = '+' :: text
  · obtain ⟨text, rfl⟩ := hplus
    exact Or.inr ⟨text, rfl⟩
  · exact Or.inl (role_idle h fun text htext => hplus ⟨text, htext⟩)

instance : Append Edits := ⟨fun a b => ⟨a.lines ++ b.lines, a.badHeaders ++ b.badHeaders⟩⟩

instance : EmptyCollection Edits := ⟨⟨[], []⟩⟩

theorem Edits.append_def (a b : Edits) :
    a ++ b = ⟨a.lines ++ b.lines, a.badHeaders ++ b.badHeaders⟩ := rfl

@[simp] theorem Edits.empty_append (e : Edits) : (∅ : Edits) ++ e = e := rfl

@[simp] theorem Edits.append_empty (e : Edits) : e ++ (∅ : Edits) = e := by
  simp [Edits.append_def, show (∅ : Edits) = ⟨[], []⟩ from rfl]

theorem Edits.append_assoc (a b c : Edits) : a ++ b ++ c = a ++ (b ++ c) := by
  simp [Edits.append_def]

/-- Putting edits behind others adds nothing only if they say nothing. -/
theorem Edits.append_eq_left {a b : Edits} : a ++ b = a ↔ b = ∅ := by
  constructor
  · intro h
    have hlines : a.lines ++ b.lines = a.lines := congrArg Edits.lines h
    have hbad : a.badHeaders ++ b.badHeaders = a.badHeaders := congrArg Edits.badHeaders h
    cases b
    simp_all [show (∅ : Edits) = ⟨[], []⟩ from rfl]
  · rintro rfl
    exact Edits.append_empty a

theorem Edits.eq_empty_of_append {a b : Edits} (h : a ++ b = ∅) : a = ∅ := by
  have hlines : a.lines ++ b.lines = [] := congrArg Edits.lines h
  have hbad : a.badHeaders ++ b.badHeaders = [] := congrArg Edits.badHeaders h
  cases a
  simp_all [show (∅ : Edits) = ⟨[], []⟩ from rfl]

/-- What one line says, if the next added line has the number given; `none` if that number is too
large. -/
def readLine (next : Option Nat) (line : List Char) : Option Edits :=
  match role line, next with
  | .header none, _ => some ⟨[], [String.ofList line]⟩
  | .added text, some number =>
    if number < numberLimit then some ⟨[(number, String.ofList text)], []⟩ else none
  | _, _ => some ∅

/-- The number of the next added line behind a line. -/
def numberAfter (next : Option Nat) (line : List Char) : Option Nat :=
  match role line with
  | .header start => some (start.getD 0)
  | .added _ => next.map (· + 1)
  | .idle => next

/-- The number of the next added line behind lines. -/
def numberBehind (next : Option Nat) (lines : List (List Char)) : Option Nat :=
  lines.foldl numberAfter next

@[simp] theorem readBody_nil (next : Option Nat) : readBody next [] = some ∅ := rfl

/-- The first line is read, and the others behind it. -/
theorem readBody_cons (next : Option Nat) (line : List Char) (rest : List (List Char)) :
    readBody next (line :: rest) =
      (readLine next line).bind fun e =>
        (readBody (numberAfter next line) rest).map (e ++ ·) := by
  conv_lhs => unfold readBody
  unfold readLine numberAfter
  cases hh : isHeader line with
  | true =>
      rw [role_of_isHeader hh, if_pos rfl]
      cases newStart? line with
      | none => rfl
      | some start => simp
  | false =>
      -- an added line counts only in a hunk, and only while its number is small enough
      by_cases hplus : ∃ text, line = '+' :: text
      · obtain ⟨text, rfl⟩ := hplus
        rw [role_added]
        cases next with
        | none => simp
        | some number =>
            by_cases hlt : number < numberLimit
            · simp [hlt, Edits.append_def]
            · simp [hlt]
      · have hother : ∀ text, line ≠ '+' :: text := fun text h => hplus ⟨text, h⟩
        rw [role_idle hh hother]
        simp [hother]

/-- **Reading goes line by line.** -/
theorem readBody_append (next : Option Nat) (xs ys : List (List Char)) :
    readBody next (xs ++ ys) =
      (readBody next xs).bind fun e =>
        (readBody (numberBehind next xs) ys).map (e ++ ·) := by
  induction xs generalizing next with
  | nil => simp [numberBehind]
  | cons line xs ih =>
      rw [List.cons_append, readBody_cons, readBody_cons, ih]
      cases readLine next line with
      | none => rfl
      | some e =>
          cases readBody (numberAfter next line) xs with
          | none => rfl
          | some e' =>
              change Option.map _ (Option.map _ _) = Option.map _ _
              rw [Option.map_map]
              refine congrArg (Option.map · _) (funext fun e'' => ?_)
              exact (Edits.append_assoc e e' e'').symm

/-- Before the first hunk nothing is counted, so no number gets too large there. -/
theorem isSome_readBody_none {next : Option Nat} {lines : List (List Char)}
    (h : (readBody next lines).isSome) : (readBody none lines).isSome := by
  induction lines generalizing next with
  | nil => rfl
  | cons line rest ih =>
      rw [readBody_cons] at h ⊢
      unfold readLine numberAfter at h ⊢
      cases hr : role line with
      | header start =>
          simp only [hr] at h ⊢
          cases start <;> simpa using h
      | added text =>
          simp only [hr] at h ⊢
          have hrest : (readBody (next.map (· + 1)) rest).isSome := by
            cases next with
            | none => simpa using h
            | some number =>
                by_cases hlt : number < numberLimit
                · simpa [hlt] using h
                · simp [hlt] at h
          simpa using ih hrest
      | idle =>
          simp only [hr] at h ⊢
          have hrest : (readBody next rest).isSome := by simpa using h
          simpa using ih hrest

/-! ### Idle lines -/

theorem readLine_idle {line : List Char} (h : role line = .idle) (next : Option Nat) :
    readLine next line = some ∅ := by
  simp [readLine, h]

theorem numberAfter_idle {line : List Char} (h : role line = .idle) (next : Option Nat) :
    numberAfter next line = next := by
  simp [numberAfter, h]

/-- Idle lines say nothing, and change nothing for the lines behind them. -/
theorem readBody_idle_append {xs : List (List Char)} (h : ∀ l ∈ xs, role l = .idle)
    (next : Option Nat) (ys : List (List Char)) :
    readBody next (xs ++ ys) = readBody next ys := by
  induction xs with
  | nil => rfl
  | cons line xs ih =>
      have hline : role line = .idle := h line (List.mem_cons_self ..)
      rw [List.cons_append, readBody_cons, readLine_idle hline, numberAfter_idle hline,
        ih fun l hl => h l (List.mem_cons_of_mem _ hl)]
      simp

/-- Idle lines at the end say nothing. -/
theorem readBody_append_idle {ys : List (List Char)} (h : ∀ l ∈ ys, role l = .idle)
    (next : Option Nat) (xs : List (List Char)) :
    readBody next (xs ++ ys) = readBody next xs := by
  have hys : ∀ number, readBody number ys = some ∅ := fun number => by
    simpa using readBody_idle_append h number []
  rw [readBody_append]
  cases readBody next xs <;> simp [hys]

/-- A line that begins a section begins with a plus sign, so it is not idle in another one. -/
theorem pathOf?_of_idle {line : List Char} (h : role line = .idle) : pathOf? line = none := by
  unfold pathOf?
  rw [if_neg]
  intro hpre
  obtain ⟨rest, rfl⟩ := List.isPrefixOf_iff_prefix.1 hpre
  simp [fileMarker] at h

/-! ### Where sections begin -/

theorem cut_cons_of_none {line : List Char} (h : pathOf? line = none)
    (rest : List (List Char)) :
    cut (line :: rest) = (line :: (cut rest).1, (cut rest).2) := by
  simp [cut, h]

theorem cut_cons_of_some {line path : List Char} (h : pathOf? line = some path)
    (rest : List (List Char)) :
    cut (line :: rest) = ([], ⟨path, (cut rest).1⟩ :: (cut rest).2) := by
  simp [cut, h]

/-- Lines put behind the last of some sections; if there is none, they are dropped. -/
def extendLast (more : List (List Char)) : List Section → List Section
  | [] => []
  | [s] => [{ s with body := s.body ++ more }]
  | s :: t :: rest => s :: extendLast more (t :: rest)

theorem extendLast_cons {s : Section} {ss : List Section} (h : ss ≠ [])
    (more : List (List Char)) : extendLast more (s :: ss) = s :: extendLast more ss := by
  cases ss with
  | nil => exact absurd rfl h
  | cons t ss => rfl

/-- **Where lines go that are put behind others.** What stands before their first section goes to
the last section in front. -/
theorem cut_append (xs ys : List (List Char)) :
    cut (xs ++ ys) =
      ((cut xs).1 ++ (if (cut xs).2 = [] then (cut ys).1 else []),
        extendLast (cut ys).1 (cut xs).2 ++ (cut ys).2) := by
  induction xs with
  | nil => simp [cut, extendLast]
  | cons line xs ih =>
      cases h : pathOf? line with
      | none => simp [cut_cons_of_none h, ih]
      | some path =>
          rw [List.cons_append, cut_cons_of_some h, cut_cons_of_some h, ih]
          -- if no section follows, the new one is the last, and gets the lines behind
          by_cases hnil : (cut xs).2 = []
          · simp [hnil, extendLast]
          · simp [hnil, extendLast_cons hnil]

theorem sections_append (xs ys : List (List Char)) :
    sections (xs ++ ys) = extendLast (cut ys).1 (sections xs) ++ sections ys := by
  simp [sections, cut_append]

/-- The sections are those of the lines that begin one. -/
theorem map_path_sections (lines : List (List Char)) :
    (sections lines).map Section.path = lines.filterMap pathOf? := by
  unfold sections
  induction lines with
  | nil => rfl
  | cons line rest ih =>
      cases h : pathOf? line with
      | none => rw [cut_cons_of_none h, List.filterMap_cons_none h, ih]
      | some path =>
          rw [cut_cons_of_some h, List.filterMap_cons_some h, ← ih]
          rfl

/-- Lines none of which begins a section are no sections. -/
theorem cut_of_forall_none {lines : List (List Char)} (h : ∀ l ∈ lines, pathOf? l = none) :
    cut lines = (lines, []) := by
  induction lines with
  | nil => rfl
  | cons line rest ih =>
      rw [cut_cons_of_none (h line (List.mem_cons_self ..)),
        ih fun l hl => h l (List.mem_cons_of_mem _ hl)]

/-! ### What a diff says -/

/-- What a section says of its file: its edits, unless a number gets too large. -/
structure Reading where
  file : String
  edits : Option Edits
deriving DecidableEq

/-- The name of the file that a path in a diff stands for. -/
def nameOf (path : List Char) : String := String.ofList (Path.slashed (Text.trimChars path))

/-- What a section says. -/
def Section.reading (s : Section) : Reading := ⟨s.name, readBody none s.body⟩

/-- What lines say, section by section. -/
def readings (lines : List (List Char)) : List Reading := (sections lines).map Section.reading

/-- The files of a diff are those of the lines that begin a section. -/
theorem map_file_readings (lines : List (List Char)) :
    (readings lines).map Reading.file = (lines.filterMap pathOf?).map nameOf := by
  rw [← map_path_sections, readings, List.map_map, List.map_map]
  rfl

/-- Idle lines behind the last section say nothing. -/
theorem map_reading_extendLast {more : List (List Char)} (h : ∀ l ∈ more, role l = .idle)
    (ss : List Section) :
    (extendLast more ss).map Section.reading = ss.map Section.reading := by
  induction ss with
  | nil => rfl
  | cons s ss ih =>
      cases ss with
      | nil => simp [extendLast, Section.reading, Section.name, readBody_append_idle h]
      | cons t ss => rw [extendLast, List.map_cons, List.map_cons, ih]

/-- What two parts say: the last section of the first one also gets the lines before the first
section of the second one. -/
theorem readings_append (xs ys : List (List Char)) :
    readings (xs ++ ys) =
      (extendLast (cut ys).1 (sections xs)).map Section.reading ++ readings ys := by
  unfold readings
  rw [sections_append, List.map_append]

/-- **Idle lines keep diffs apart**: if nothing but idle lines stands before the first section of
what comes behind, both parts say what they say on their own. -/
theorem readings_append_of_idle {xs ys : List (List Char)}
    (h : ∀ l ∈ (cut ys).1, role l = .idle) :
    readings (xs ++ ys) = readings xs ++ readings ys := by
  rw [readings_append, map_reading_extendLast h]
  rfl

/-- The empty part behind the last line feed says nothing. -/
theorem readings_append_nil (lines : List (List Char)) :
    readings (lines ++ [[]]) = readings lines := by
  have hidle : ∀ l ∈ (cut [[]]).1, role l = .idle := by decide
  rw [readings_append_of_idle hidle]
  exact List.append_nil _

/-! ### The diff of a text -/

/-- Adds what a section says to a diff. -/
def addReading (d : Diff) (r : Reading) : Except LineOverflow Diff :=
  match r.edits with
  | none => .error ⟨r.file⟩
  | some e => .ok {
      files := d.files.push ((EditedFile.new r.file).registerAll e.lines)
      malformed := d.malformed ++ e.badHeaders.map fun h => ⟨r.file, h⟩ }

/-- The file that a section is about, with its added lines. -/
def Reading.toFile (r : Reading) : EditedFile :=
  (EditedFile.new r.file).registerAll (r.edits.getD ∅).lines

/-- The hunks of a section whose headers give no number. -/
def Reading.malformed (r : Reading) : List MalformedHunk :=
  (r.edits.getD ∅).badHeaders.map fun h => ⟨r.file, h⟩

@[simp] theorem Reading.name_toFile (r : Reading) : r.toFile.name = r.file :=
  EditedFile.name_registerAll_new ..

/-- If no number gets too large, the files and the malformed hunks of all sections are kept. -/
theorem foldlM_addReading {rs : List Reading} (h : ∀ r ∈ rs, r.edits.isSome) (d : Diff) :
    rs.foldlM addReading d = .ok {
      files := d.files.pushAll (rs.map Reading.toFile)
      malformed := d.malformed ++ rs.flatMap Reading.malformed } := by
  induction rs generalizing d with
  | nil => simp [pure, Except.pure]
  | cons r rs ih =>
      obtain ⟨e, he⟩ := Option.isSome_iff_exists.1 (h r (List.mem_cons_self ..))
      have hstep : addReading d r = .ok ⟨d.files.push r.toFile, d.malformed ++ r.malformed⟩ := by
        simp [addReading, Reading.toFile, Reading.malformed, he]
      rw [List.foldlM_cons, hstep]
      change rs.foldlM addReading _ = _
      rw [ih fun r hr => h r (List.mem_cons_of_mem _ hr)]
      simp [List.append_assoc]

/-- If there is a diff, no number gets too large. -/
theorem isSome_of_foldlM_addReading {rs : List Reading} {d d' : Diff}
    (h : rs.foldlM addReading d = .ok d') : ∀ r ∈ rs, r.edits.isSome := by
  induction rs generalizing d with
  | nil => simp
  | cons r rs ih =>
      rw [List.foldlM_cons] at h
      cases hr : r.edits with
      | none =>
          have hstep : addReading d r = .error ⟨r.file⟩ := by simp [addReading, hr]
          rw [hstep] at h
          cases h
      | some e =>
          obtain ⟨next, hnext⟩ : ∃ next, addReading d r = .ok next := by
            rw [addReading, hr]
            exact ⟨_, rfl⟩
          rw [hnext] at h
          rw [List.forall_mem_cons]
          exact ⟨by simp [hr], ih h⟩

/-- If lines can be read as one section, the sections that they are cut into can be read too. -/
theorem isSome_readings {next : Option Nat} {lines : List (List Char)}
    (h : (readBody next lines).isSome) :
    (readBody next (cut lines).1).isSome ∧ ∀ r ∈ readings lines, r.edits.isSome := by
  unfold readings sections
  induction lines generalizing next with
  | nil => simp [cut]
  | cons line rest ih =>
      rw [readBody_cons] at h
      have hline : (readLine next line).isSome := by
        cases hl : readLine next line with
        | none => simp [hl] at h
        | some e => rfl
      have hrest : (readBody (numberAfter next line) rest).isSome := by
        obtain ⟨e, he⟩ := Option.isSome_iff_exists.1 hline
        simpa [he] using h
      obtain ⟨hfront, hsections⟩ := ih hrest
      cases hp : pathOf? line with
      | none =>
          rw [cut_cons_of_none hp, readBody_cons]
          obtain ⟨e, he⟩ := Option.isSome_iff_exists.1 hline
          exact ⟨by simpa [he] using hfront, hsections⟩
      | some path =>
          rw [cut_cons_of_some hp]
          refine ⟨rfl, ?_⟩
          rw [List.map_cons]
          -- a new section is read from no number on, where fewer lines are counted
          intro r hr
          rcases List.mem_cons.1 hr with rfl | hr
          · exact isSome_readBody_none hfront
          · exact hsections r hr

/-- **The diff of a text** is what its sections say, put together in order. -/
theorem parseChars_eq_foldlM_readings (cs : List Char) :
    parseChars cs = (readings (Text.splitOn '\n' cs)).foldlM addReading ⟨∅, []⟩ := by
  unfold parseChars readings
  rw [List.foldlM_map]
  rfl

/-- The diff of whole lines. -/
theorem parse_unlines (ls : List Text.Line) :
    parse (String.ofList (Text.unlines ls)) =
      (readings (ls.map Text.Line.chars)).foldlM addReading ⟨∅, []⟩ := by
  rw [parse, String.toList_ofList, parseChars_eq_foldlM_readings, Text.splitOn_unlines,
    readings_append_nil]

end StandardsGate.Diff
