import StandardsGate.Diff.HunkHeader
import Mathlib.Data.List.Basic

/-!
Hunk headers as they are printed.

A header gives the range of the old file, the range of the new file, and perhaps a heading. The
number that is read from it is the start of the new range, whatever the old range and the heading
are, as long as the number has 64 bits.

Main definitions:

* `HunkHeader.rangeText` — a range as it is printed;
* `HunkHeader.headerText` — a header as it is printed.

Main results:

* `HunkHeader.rangeStart?_rangeText` — the start of a printed range is read back;
* `HunkHeader.newStart?_headerText` — **the number read from a printed header**.
-/

namespace StandardsGate.HunkHeader

/-- A range as it is printed: where it begins, and its length unless that is 1. -/
def rangeText (start count : Nat) : List Char :=
  Nat.toDigits 10 start ++ if count = 1 then [] else ',' :: Nat.toDigits 10 count

/-- A header as it is printed. -/
def headerText (oldStart oldCount start count : Nat) (heading : List Char) : List Char :=
  ['@', '@', ' ', '-'] ++ rangeText oldStart oldCount ++ ' ' :: '+' ::
    (rangeText start count ++ ' ' :: '@' :: '@' :: heading)

/-! ### Digits -/

theorem decimalValue_toDigits (n : Nat) : Text.decimalValue (Nat.toDigits 10 n) = n := by
  calc Text.decimalValue (Nat.toDigits 10 n)
      = Nat.ofDigitChars 10 (Nat.toDigits 10 n) 0 := by
        simp only [Text.decimalValue, Nat.ofDigitChars_eq_foldl, Nat.mul_comm 10]
    _ = n := Nat.ofDigitChars_ten_toDigits

theorem isDigit_of_mem_toDigits {n : Nat} {c : Char} (h : c ∈ Nat.toDigits 10 n) :
    c.isDigit = true := Nat.isDigit_of_mem_toDigits (by decide) (by decide) h

theorem takeWhile_toDigits (n : Nat) {c : Char} (hc : c.isDigit = false) (rest : List Char) :
    (Nat.toDigits 10 n ++ c :: rest).takeWhile Char.isDigit = Nat.toDigits 10 n := by
  rw [List.takeWhile_append_of_pos fun _ => isDigit_of_mem_toDigits]
  simp [hc]

theorem dropWhile_toDigits (n : Nat) {c : Char} (hc : c.isDigit = false) (rest : List Char) :
    (Nat.toDigits 10 n ++ c :: rest).dropWhile Char.isDigit = c :: rest := by
  rw [List.dropWhile_append_of_pos fun _ => isDigit_of_mem_toDigits]
  simp [hc]

/-- What is printed of a range has neither plus signs nor line feeds. -/
theorem mem_rangeText {start count : Nat} {c : Char} (h : c ∈ rangeText start count) :
    c.isDigit = true ∨ c = ',' := by
  rcases List.mem_append.1 h with h | h
  · exact Or.inl (isDigit_of_mem_toDigits h)
  · by_cases h1 : count = 1
    · simp [h1] at h
    · rw [if_neg h1, List.mem_cons] at h
      exact h.symm.imp isDigit_of_mem_toDigits id

/-! ### Reading a header -/

/-- Dropping the count of a printed range leaves the end of the ranges. -/
theorem dropCount_rangeText (start count : Nat) (rest : List Char) :
    dropCount ((rangeText start count ++ ' ' :: rest).dropWhile Char.isDigit) = ' ' :: rest := by
  have hspace : Char.isDigit ' ' = false := by decide
  have hcomma : Char.isDigit ',' = false := by decide
  unfold rangeText
  by_cases h1 : count = 1
  · rw [if_pos h1, List.append_nil, dropWhile_toDigits start hspace]
    rfl
  · rw [if_neg h1, List.append_assoc, List.cons_append, dropWhile_toDigits start hcomma]
    simp [dropCount, dropWhile_toDigits count hspace]

/-- **The start of a printed range is read back.** -/
theorem rangeStart?_rangeText (start count : Nat) (rest : List Char) :
    rangeStart? (rangeText start count ++ ' ' :: '@' :: '@' :: rest) = some start := by
  have htake : (rangeText start count ++ ' ' :: '@' :: '@' :: rest).takeWhile Char.isDigit =
      Nat.toDigits 10 start := by
    unfold rangeText
    by_cases h1 : count = 1
    · rw [if_pos h1, List.append_nil, takeWhile_toDigits start (by decide)]
    · rw [if_neg h1, List.append_assoc, List.cons_append, takeWhile_toDigits start (by decide)]
  unfold rangeStart?
  rw [htake, dropCount_rangeText]
  simp [Nat.toDigits_ne_nil, decimalValue_toDigits]

/-- Nothing is read in front of the first plus sign. -/
theorem firstStart?_append {cs : List Char} (h : '+' ∉ cs) (rest : List Char) :
    firstStart? (cs ++ rest) = firstStart? rest := by
  induction cs with
  | nil => rfl
  | cons c cs ih =>
      simp only [List.mem_cons, not_or] at h
      rw [List.cons_append, firstStart?, if_neg (Ne.symm h.1)]
      exact ih h.2

/-- **The number read from a printed header** is the start of the new range. -/
theorem newStart?_headerText (oldStart oldCount start count : Nat) (heading : List Char) :
    newStart? (headerText oldStart oldCount start count heading) =
      if start < numberLimit then some start else none := by
  have hfront : '+' ∉ ['@', '@', ' ', '-'] ++ rangeText oldStart oldCount ++ [' '] := by
    intro h
    simp only [List.mem_append, or_assoc] at h
    rcases h with h | h | h
    · exact absurd h (by decide)
    · rcases mem_rangeText h with h | h <;> exact absurd h (by decide)
    · exact absurd h (by decide)
  have hfirst : firstStart? (headerText oldStart oldCount start count heading) = some start := by
    have hsplit : headerText oldStart oldCount start count heading =
        (['@', '@', ' ', '-'] ++ rangeText oldStart oldCount ++ [' ']) ++
          ('+' :: (rangeText start count ++ ' ' :: '@' :: '@' :: heading)) := by
      simp [headerText]
    rw [hsplit, firstStart?_append hfront, firstStart?, if_pos rfl, rangeStart?_rangeText]
  unfold newStart?
  rw [hfirst]

theorem isHeader_headerText (oldStart oldCount start count : Nat) (heading : List Char) :
    isHeader (headerText oldStart oldCount start count heading) = true := rfl

/-- A header is one line, if its heading is. -/
theorem not_mem_headerText {heading : List Char} (h : '\n' ∉ heading)
    (oldStart oldCount start count : Nat) :
    '\n' ∉ headerText oldStart oldCount start count heading := by
  have hrange : ∀ s c, '\n' ∉ rangeText s c := by
    intro s c hmem
    rcases mem_rangeText hmem with hc | hc <;> exact absurd hc (by decide)
  simp [headerText, hrange, h]

end StandardsGate.HunkHeader
