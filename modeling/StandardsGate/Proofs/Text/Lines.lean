import StandardsGate.Text.Lines

/-!
Texts that are made of whole lines.

A text whose lines all end in a line feed splits into these lines and an empty part behind the last
one, and a text splits at a line feed into the parts of both sides.

Main definitions:

* `Text.Line` — a text without line feeds;
* `Text.unlines` — lines, each with a line feed at its end.

Main results:

* `Text.splitOn_append_cons` — a text splits at each occurrence of the separator;
* `Text.splitOn_unlines` — **splitting undoes writing lines**, up to the empty part at the end.
-/

namespace StandardsGate.Text

/-- A text without line feeds. -/
structure Line where
  chars : List Char
  unbroken : '\n' ∉ chars
deriving DecidableEq, Repr

instance : Inhabited Line := ⟨⟨[], by simp⟩⟩

/-- The text of a line. -/
def Line.text (l : Line) : String := String.ofList l.chars

theorem Line.text_injective : Function.Injective Line.text := by
  rintro ⟨cs, hcs⟩ ⟨ds, hds⟩ h
  obtain rfl : cs = ds := String.ofList_injective h
  rfl

/-- The first line of a text. -/
def Line.first (s : String) : Line where
  chars := s.toList.takeWhile (· ≠ '\n')
  unbroken h := by
    have hbreak := List.all_eq_true.1 List.all_takeWhile _ h
    simp at hbreak

/-- The line that begins with the characters given. -/
def Line.after (start : List Char) (h : '\n' ∉ start) (l : Line) : Line :=
  ⟨start ++ l.chars, by simp [h, l.unbroken]⟩

/-- Lines, each with a line feed at its end. -/
def unlines (ls : List Line) : List Char := ls.flatMap fun l => l.chars ++ ['\n']

theorem unlines_cons (l : Line) (ls : List Line) :
    unlines (l :: ls) = l.chars ++ '\n' :: unlines ls := by
  simp [unlines]

/-- A text without the separator is one part. -/
theorem splitOn_eq_singleton {sep : Char} {cs : List Char} (h : sep ∉ cs) :
    splitOn sep cs = [cs] := by
  induction cs with
  | nil => rfl
  | cons c rest ih =>
      obtain ⟨hc, hrest⟩ := not_or.1 (mt List.mem_cons.2 h)
      rw [splitOn, if_neg (Ne.symm hc), ih hrest]
      rfl

theorem consHead_append (c : Char) {parts : List (List Char)} (h : parts ≠ [])
    (more : List (List Char)) : consHead c (parts ++ more) = consHead c parts ++ more := by
  cases parts with
  | nil => exact absurd rfl h
  | cons part parts => rfl

/-- **A text splits at each occurrence of the separator.** -/
theorem splitOn_append_cons (sep : Char) (cs ds : List Char) :
    splitOn sep (cs ++ sep :: ds) = splitOn sep cs ++ splitOn sep ds := by
  induction cs with
  | nil => simp [splitOn]
  | cons c rest ih =>
      rw [List.cons_append, splitOn, splitOn, ih]
      split
      · rfl
      · exact consHead_append c (splitOn_ne_nil sep rest) _

/-- The parts do not have the separator. -/
theorem not_mem_of_mem_splitOn {sep : Char} {cs part : List Char} (h : part ∈ splitOn sep cs) :
    sep ∉ part := by
  induction cs generalizing part with
  | nil =>
      obtain rfl : part = [] := by simpa [splitOn] using h
      simp
  | cons c rest ih =>
      rw [splitOn] at h
      split at h
      · rcases List.mem_cons.1 h with rfl | h
        · simp
        · exact ih h
      · rename_i hc
        cases hs : splitOn sep rest with
        | nil => exact absurd hs (splitOn_ne_nil sep rest)
        | cons first parts =>
            rw [hs] at h ih
            rcases List.mem_cons.1 h with rfl | h
            · simpa [Ne.symm hc] using ih (List.mem_cons_self ..)
            · exact ih (List.mem_cons_of_mem _ h)

/-- **Splitting undoes writing lines**, up to the empty part behind the last line feed. -/
theorem splitOn_unlines (ls : List Line) :
    splitOn '\n' (unlines ls) = ls.map Line.chars ++ [[]] := by
  induction ls with
  | nil => rfl
  | cons l ls ih =>
      rw [unlines_cons, splitOn_append_cons, ih, splitOn_eq_singleton l.unbroken]
      rfl

end StandardsGate.Text
