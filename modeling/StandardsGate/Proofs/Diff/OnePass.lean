import StandardsGate.Proofs.Diff.Slicing

/-!
Reading a diff in one pass.

The lines of a diff can be read one after the other by a machine that never looks ahead. It carries
the file that is being read, whether a hunk of it has begun, where that hunk starts and how many of
its added lines came so far; a file is put to the others when the next one begins, or at the end.

Main definitions:

* `Scan`, `Scan.step` — what is carried from line to line, and what one line does to it;
* `Scan.diff` — the diff that the machine makes of lines;
* `Scan.numbers` — the numbers under which the machine registers added lines.

Main results:

* `Scan.resume_cons` — **one step**: the machine and the reader of sections agree on each line;
* `Scan.resume_eq_ok_iff` — **a whole run**, from any state on;
* `Diff.parse_eq_ok_iff_scan` — **the diff of a text is what one pass over its lines makes**.
-/

namespace StandardsGate

open HunkHeader (isHeader newStart? numberLimit)

/-- What is carried from line to line. -/
structure Scan where
  /-- The files that are finished, and the malformed hunks so far. -/
  done : Diff
  /-- The file that is being read. -/
  current : Option EditedFile
  /-- Whether a hunk of that file has begun. -/
  inHunk : Bool
  /-- Where the hunk begins. -/
  start : Nat
  /-- How many added lines of the hunk came so far. -/
  index : Nat

namespace Scan

/-- Nothing is read yet. -/
def initial : Scan := ⟨⟨∅, []⟩, none, false, 0, 0⟩

/-- Puts the file that is being read to the finished ones. -/
def close (s : Scan) : Diff :=
  match s.current with
  | some f => { s.done with files := s.done.files.push f }
  | none => s.done

/-- Begins a file. -/
def openFile (s : Scan) (name : String) : Scan := ⟨s.close, some (.new name), false, 0, 0⟩

/-- Begins a hunk. -/
def openHunk (s : Scan) (start : Nat) : Scan :=
  { s with inHunk := true, start := start, index := 0 }

/-- Notes a hunk whose header gives no number. -/
def note (s : Scan) (file header : String) : Scan :=
  { s with done := { s.done with malformed := s.done.malformed ++ [⟨file, header⟩] } }

/-- What a line does. -/
def step (s : Scan) (line : List Char) : Scan :=
  match Diff.pathOf? line, s.current with
  | some path, _ => s.openFile (Diff.nameOf path)
  | none, none => s
  | none, some f =>
    if isHeader line then
      match newStart? line with
      | some start => s.openHunk start
      | none => (s.note f.name (String.ofList line)).openHunk 0
    else match s.inHunk, line with
      | true, '+' :: text =>
        { s with current := some (f.register (s.start + s.index) (String.ofList text))
                 index := s.index + 1 }
      | _, _ => s

/-- The diff that the machine makes of lines. -/
def diff (lines : List (List Char)) : Diff := (lines.foldl step initial).close

/-- The number under which a line is registered, if it is. -/
def number? (s : Scan) (line : List Char) : Option Nat :=
  match Diff.pathOf? line, s.current, s.inHunk, line with
  | none, some _, true, '+' :: _ => some (s.start + s.index)
  | _, _, _, _ => none

/-- The numbers under which lines are registered, from a state on. -/
def numbers (s : Scan) : List (List Char) → List Nat
  | [] => []
  | line :: rest => (s.number? line).toList ++ numbers (s.step line) rest

/-! ### One line -/

open Diff (pathOf? nameOf cut readings readBody readLine numberAfter addReading LineOverflow role)

/-- The number of the next added line, once a hunk has begun. -/
def next (s : Scan) : Option Nat := if s.inHunk then some (s.start + s.index) else none

variable {s : Scan} {line : List Char}

/-- A line of a file does what it says. -/
theorem step_of_readLine {f : EditedFile} {e : Diff.Edits} (hpath : pathOf? line = none)
    (hcurrent : s.current = some f) (he : readLine s.next line = some e) :
    (s.step line).current = some (f.registerAll e.lines) ∧
      (s.step line).done =
        { s.done with malformed := s.done.malformed ++ e.badHeaders.map fun h => ⟨f.name, h⟩ } ∧
      (s.step line).next = numberAfter s.next line := by
  obtain ⟨done, current, inHunk, start, index⟩ := s
  subst hcurrent
  unfold readLine at he
  unfold step numberAfter
  simp only [hpath]
  cases hheader : isHeader line with
  | true =>
      rw [Diff.role_of_isHeader hheader] at he ⊢
      cases hstart : newStart? line with
      | some number =>
          obtain rfl : (∅ : Diff.Edits) = e := by simpa [hstart] using he
          simp [openHunk, next, EditedFile.registerAll, show (∅ : Diff.Edits) = ⟨[], []⟩ from rfl]
      | none =>
          obtain rfl : (⟨[], [String.ofList line]⟩ : Diff.Edits) = e := by
            simpa [hstart] using he
          simp [openHunk, note, next, EditedFile.registerAll]
  | false =>
      -- an added line counts only in a hunk, and every other line does nothing
      by_cases hplus : ∃ text, line = '+' :: text
      · obtain ⟨text, rfl⟩ := hplus
        cases inHunk with
        | false =>
            obtain rfl : (∅ : Diff.Edits) = e := by simpa [next] using he
            simp [next, EditedFile.registerAll, show (∅ : Diff.Edits) = ⟨[], []⟩ from rfl]
        | true =>
            obtain ⟨-, rfl⟩ : start + index < numberLimit ∧
                (⟨[(start + index, String.ofList text)], []⟩ : Diff.Edits) = e := by
              simpa [next] using he
            simp [next, EditedFile.registerAll, Nat.add_assoc]
      · have hother : ∀ text, line ≠ '+' :: text := fun text h => hplus ⟨text, h⟩
        rw [Diff.role_idle hheader hother] at he ⊢
        obtain rfl : (∅ : Diff.Edits) = e := by simpa using he
        simp [hother, EditedFile.registerAll, show (∅ : Diff.Edits) = ⟨[], []⟩ from rfl]

/-- A line of a file that says nothing gets a number that is too large. -/
theorem readLine_eq_none_iff {f : EditedFile} (hpath : pathOf? line = none)
    (hcurrent : s.current = some f) :
    readLine s.next line = none ↔ ∃ n ∈ s.number? line, ¬ n < numberLimit := by
  unfold readLine number?
  simp only [hpath, hcurrent]
  cases hheader : isHeader line with
  | true =>
      have hplus : ∀ text, line ≠ '+' :: text := by
        rintro text rfl
        cases hheader
      rw [Diff.role_of_isHeader hheader]
      cases newStart? line <;> simp [hplus]
  | false =>
      by_cases hplus : ∃ text, line = '+' :: text
      · obtain ⟨text, rfl⟩ := hplus
        cases hin : s.inHunk <;> simp [next, hin]
      · have hother : ∀ text, line ≠ '+' :: text := fun text h => hplus ⟨text, h⟩
        rw [Diff.role_idle hheader hother]
        simp [hother]

/-! ### A whole run -/

/-- What the reader of sections makes of lines that follow a state: those before the next section
still belong to the file that is being read. -/
def resume (s : Scan) (lines : List (List Char)) : Except LineOverflow Diff :=
  match s.current with
  | none => (readings lines).foldlM addReading s.done
  | some f =>
    match readBody s.next (cut lines).1 with
    | none => .error ⟨f.name⟩
    | some e => (readings lines).foldlM addReading {
        files := s.done.files.push (f.registerAll e.lines)
        malformed := s.done.malformed ++ e.badHeaders.map fun h => ⟨f.name, h⟩ }

theorem resume_nil (s : Scan) : s.resume [] = .ok s.close := by
  obtain ⟨⟨files, malformed⟩, current, inHunk, start, index⟩ := s
  unfold resume close
  cases current with
  | none => rfl
  | some f =>
      change Except.ok _ = Except.ok _
      simp [EditedFile.registerAll]

/-- A line that begins a section closes the file that is being read. -/
theorem resume_openFile {path : List Char} (hpath : pathOf? line = some path)
    (rest : List (List Char)) : s.resume (line :: rest) = (s.step line).resume rest := by
  have hreadings : readings (line :: rest) =
      ⟨nameOf path, readBody none (cut rest).1⟩ :: readings rest := by
    unfold readings Diff.sections
    rw [Diff.cut_cons_of_some hpath]
    rfl
  have hclosed : s.resume (line :: rest) = (readings (line :: rest)).foldlM addReading s.close := by
    obtain ⟨⟨files, malformed⟩, current, inHunk, start, index⟩ := s
    unfold resume close
    rw [Diff.cut_cons_of_some hpath]
    cases current with
    | none => rfl
    | some f => simp [EditedFile.registerAll, show (∅ : Diff.Edits) = ⟨[], []⟩ from rfl]
  have hstep : s.step line = s.openFile (nameOf path) := by simp [step, hpath]
  rw [hclosed, hreadings, List.foldlM_cons, hstep]
  have hnext : (s.openFile (nameOf path)).next = none := rfl
  simp only [addReading, resume, hnext]
  cases readBody none (cut rest).1 <;> rfl

/-- **One step.** Unless a number gets too large, the reader of sections goes on after a line as
from the state that the machine is then in. -/
theorem resume_cons (h : ∀ n ∈ s.number? line, n < numberLimit) (rest : List (List Char)) :
    s.resume (line :: rest) = (s.step line).resume rest := by
  cases hpath : pathOf? line with
  | some path => exact resume_openFile hpath rest
  | none =>
      have hreadings : readings (line :: rest) = readings rest := by
        unfold readings Diff.sections
        rw [Diff.cut_cons_of_none hpath]
      cases hcurrent : s.current with
      | none =>
          have hstep : s.step line = s := by simp [step, hpath, hcurrent]
          rw [hstep]
          simp only [resume, hcurrent, hreadings]
      | some f =>
          obtain ⟨e, he⟩ : ∃ e, readLine s.next line = some e := by
            rw [← Option.ne_none_iff_exists', ne_eq, readLine_eq_none_iff hpath hcurrent]
            rintro ⟨n, hn, hlt⟩
            exact hlt (h n hn)
          obtain ⟨hfile, hdone, hnext⟩ := step_of_readLine hpath hcurrent he
          simp only [resume, hcurrent, hfile, hdone, hnext, hreadings, Diff.cut_cons_of_none hpath,
            Diff.readBody_cons, he, Option.bind_some, EditedFile.name_registerAll]
          -- what the line says is registered in front of what the rest of the section says
          cases readBody (numberAfter s.next line) (cut rest).1 with
          | none => rfl
          | some e' =>
              simp [Diff.Edits.append_def, EditedFile.registerAll, List.append_assoc]

/-- Where a number gets too large, the reader of sections has no diff. -/
theorem resume_cons_of_overflow {n : Nat} (hn : n ∈ s.number? line) (h : ¬ n < numberLimit)
    (rest : List (List Char)) : ∃ e, s.resume (line :: rest) = .error e := by
  cases hpath : pathOf? line with
  | some path => simp [number?, hpath] at hn
  | none =>
      cases hcurrent : s.current with
      | none => simp [number?, hpath, hcurrent] at hn
      | some f =>
          have hnone := (readLine_eq_none_iff hpath hcurrent).2 ⟨n, hn, h⟩
          refine ⟨⟨f.name⟩, ?_⟩
          simp [resume, hcurrent, Diff.cut_cons_of_none hpath, Diff.readBody_cons, hnone]

/-- **A whole run.** The reader of sections has a diff exactly if no number gets too large, and then
it is that of the machine. -/
theorem resume_eq_ok_iff (s : Scan) (lines : List (List Char)) (d : Diff) :
    s.resume lines = .ok d ↔
      (∀ n ∈ s.numbers lines, n < numberLimit) ∧ (lines.foldl step s).close = d := by
  induction lines generalizing s with
  | nil =>
      rw [resume_nil]
      simp [numbers]
  | cons line rest ih =>
      rw [List.foldl_cons, numbers]
      by_cases hline : ∀ n ∈ s.number? line, n < numberLimit
      · rw [resume_cons hline, ih]
        simp only [List.forall_mem_append, Option.mem_toList]
        exact ⟨fun ⟨hrest, hd⟩ => ⟨⟨hline, hrest⟩, hd⟩, fun ⟨⟨_, hrest⟩, hd⟩ => ⟨hrest, hd⟩⟩
      · obtain ⟨n, hn, hlt⟩ : ∃ n, n ∈ s.number? line ∧ ¬ n < numberLimit := by
          simpa using hline
        obtain ⟨e, he⟩ := resume_cons_of_overflow hn hlt rest
        rw [he]
        constructor
        · intro h
          cases h
        · rintro ⟨hall, -⟩
          exact absurd (hall n (by simp [Option.mem_def.1 hn])) hlt

end Scan

/-- **The diff of a text is what one pass over its lines makes**, unless a number gets too large;
and the reader that slices the text at the markers gives the same. -/
theorem Diff.parse_eq_scan (text : String) (d : Diff) :
    parse text = parseSlices text.toList ∧
      (parse text = .ok d ↔
        (∀ n ∈ Scan.initial.numbers (Text.splitOn '\n' text.toList), n < numberLimit) ∧
          Scan.diff (Text.splitOn '\n' text.toList) = d) := by
  refine ⟨parseChars_eq_parseSlices text.toList, ?_⟩
  have hresume : parse text = Scan.initial.resume (Text.splitOn '\n' text.toList) :=
    parseChars_eq_foldlM_readings text.toList
  rw [hresume]
  exact Scan.resume_eq_ok_iff Scan.initial _ d

end StandardsGate
