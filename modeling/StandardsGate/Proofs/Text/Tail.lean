import StandardsGate.Proofs.Text.Lines
import StandardsGate.Text.Tail

/-!
The end of a text.

A text is cut twice: its last lines are kept, and of these the last characters. What is kept is the
longest end of the whole text that stays within both bounds.

A line feed stands between two lines. So a text that ends in a line feed ends in an empty line, and
only a text without characters has no line.

Main definitions:

* `Text.joinedLines` — the lines of a text with line feeds between them;
* `Text.lineCount` — how many lines such a text has;
* `Text.IsTail` — the longest end of a text within bounds;
* `Text.tailChecked?` — the end of a text, with every difference and every index checked.

Main results:

* `Text.joinWith_append` — lines joined in two parts;
* `Text.isTail_lastOf` — **what is kept is the longest end within the bounds**;
* `Text.tailChecked?_eq` — **no difference is negative** and no index too large.
-/

namespace StandardsGate.Text

/-- The lines of a text, with line feeds between them. -/
def joinedLines (cs : List Char) : List Char := joinWith ['\n'] (lines cs)

/-- How many lines line feeds separate. -/
def lineCount (cs : List Char) : Nat := if cs = [] then 0 else cs.count '\n' + 1

/-- The longest end of a text that has so many lines and so many characters at most. -/
structure IsTail (maxLines maxChars : Nat) (whole kept : List Char) : Prop where
  isSuffix : kept <:+ whole
  lineCount_le : lineCount kept ≤ maxLines
  length_le : kept.length ≤ maxChars
  longest : ∀ other, other <:+ whole → lineCount other ≤ maxLines → other.length ≤ maxChars →
    other <:+ kept

/-- A text within the bounds is kept as a whole. -/
theorem IsTail.eq_whole {maxLines maxChars : Nat} {whole kept : List Char}
    (h : IsTail maxLines maxChars whole kept) (hlines : lineCount whole ≤ maxLines)
    (hchars : whole.length ≤ maxChars) : kept = whole :=
  h.isSuffix.eq_of_length_le (h.longest whole List.suffix_rfl hlines hchars).length_le

/-! ### Joined lines -/

theorem joinWith_cons_cons (sep part next : List Char) (parts : List (List Char)) :
    joinWith sep (part :: next :: parts) = part ++ sep ++ joinWith sep (next :: parts) := rfl

/-- **Lines joined in two parts.** -/
theorem joinWith_append {front back : List (List Char)} (hfront : front ≠ []) (hback : back ≠ []) :
    joinWith ['\n'] (front ++ back) = joinWith ['\n'] front ++ '\n' :: joinWith ['\n'] back := by
  induction front with
  | nil => exact absurd rfl hfront
  | cons line front ih =>
      cases front with
      | nil =>
          cases back with
          | nil => exact absurd rfl hback
          | cons next back => simp [joinWith]
      | cons next front =>
          have hrest := ih (by simp)
          rw [List.cons_append] at hrest
          rw [List.cons_append, List.cons_append, joinWith_cons_cons, hrest, joinWith_cons_cons,
            List.append_assoc, List.append_assoc, List.append_assoc]

/-- Without line feeds in them, as many lines are joined as the joined text has. -/
theorem count_joinWith {ls : List (List Char)} (hne : ls ≠ []) (h : ∀ l ∈ ls, '\n' ∉ l) :
    (joinWith ['\n'] ls).count '\n' + 1 = ls.length := by
  induction ls with
  | nil => exact absurd rfl hne
  | cons line ls ih =>
      obtain ⟨hline, hrest⟩ := List.forall_mem_cons.1 h
      have hzero : line.count '\n' = 0 := List.count_eq_zero.2 hline
      cases ls with
      | nil => simpa [joinWith] using hzero
      | cons next ls =>
          have hcount := ih (by simp) hrest
          have hjoin : joinWith ['\n'] (line :: next :: ls) =
              line ++ '\n' :: joinWith ['\n'] (next :: ls) :=
            joinWith_append (List.cons_ne_nil line []) (List.cons_ne_nil next ls)
          rw [hjoin, List.count_append, List.count_cons_self, hzero, List.length_cons, ← hcount]
          omega

theorem mem_of_mem_dropReturn {line : List Char} {c : Char} (h : c ∈ dropReturn line) : c ∈ line := by
  unfold dropReturn at h
  split at h
  · rename_i rest hrev
    have hmem : c ∈ line.reverse := hrev ▸ List.mem_cons_of_mem _ (List.mem_reverse.1 h)
    exact List.mem_reverse.1 hmem
  · exact h

/-- No line has a line feed. -/
theorem not_mem_of_mem_lines {cs line : List Char} (h : line ∈ lines cs) : '\n' ∉ line := by
  have hended : line ∈ (splitOn '\n' cs).dropLast.map dropReturn → '\n' ∉ line := by
    intro hmem hfeed
    obtain ⟨part, hpart, rfl⟩ := List.mem_map.1 hmem
    exact not_mem_of_mem_splitOn (List.dropLast_subset _ hpart) (mem_of_mem_dropReturn hfeed)
  unfold lines at h
  dsimp only at h
  split at h
  · rename_i c rest hlast
    rcases List.mem_append.1 h with h | h
    · exact hended h
    · rw [List.mem_singleton] at h
      exact h ▸ not_mem_of_mem_splitOn (List.mem_of_getLast? hlast)
  · exact hended h

/-- The last line of a text that does not end in a line feed stands at its end. -/
theorem exists_lines_append {cs : List Char} (hne : cs ≠ []) (hend : cs.getLast? ≠ some '\n') :
    ∃ front line, lines cs = front ++ [line] ∧ line ≠ [] ∧ '\n' ∉ line ∧
      (front = [] ∧ cs = line ∨ front ≠ [] ∧ '\n' :: line <:+ cs) := by
  have hjoin := joinWith_splitOn '\n' cs
  obtain ⟨parts, line, hparts⟩ := (List.eq_nil_or_concat (splitOn '\n' cs)).resolve_left
    (splitOn_ne_nil '\n' cs)
  rw [List.concat_eq_append] at hparts
  have hline : '\n' ∉ line := not_mem_of_mem_splitOn (by rw [hparts]; simp)
  rw [hparts] at hjoin
  have hcases : parts = [] ∧ cs = line ∨ parts ≠ [] ∧ '\n' :: line <:+ cs := by
    by_cases hnil : parts = []
    · subst hnil
      exact Or.inl ⟨rfl, hjoin.symm⟩
    · rw [joinWith_append hnil (by simp)] at hjoin
      exact Or.inr ⟨hnil, hjoin ▸ List.suffix_append ..⟩
  have hlast : line ≠ [] := by
    rintro rfl
    rcases hcases with ⟨-, hcs⟩ | ⟨-, before, rfl⟩
    · exact hne hcs
    · simp at hend
  refine ⟨parts.map dropReturn, line, ?_, hlast, hline, ?_⟩
  · unfold lines
    rw [hparts]
    cases line with
    | nil => exact absurd rfl hlast
    | cons c line => simp
  · rwa [List.map_eq_nil_iff, ne_eq, List.map_eq_nil_iff]

/-- An end of one line is an end of the joined lines, if the text does not end in a line feed. -/
theorem suffix_joinedLines {cs other : List Char} (hend : cs.getLast? ≠ some '\n')
    (h : other <:+ cs) (hother : '\n' ∉ other) : other <:+ joinedLines cs := by
  by_cases hne : cs = []
  · subst hne
    exact List.suffix_nil.1 h ▸ List.nil_suffix
  obtain ⟨front, line, hlines, -, -, ⟨rfl, hcs⟩ | ⟨hfront, hfeed⟩⟩ := exists_lines_append hne hend
  · rw [joinedLines, hlines]
    exact hcs ▸ h
  · have hline : other <:+ line := by
      rcases List.suffix_or_suffix_of_suffix h hfeed with hshort | hlong
      · rcases List.suffix_cons_iff.1 hshort with rfl | hshort
        · simp at hother
        · exact hshort
      · exact absurd (hlong.subset (List.mem_cons_self ..)) hother
    rw [joinedLines, hlines, joinWith_append hfront (by simp)]
    exact hline.trans ((List.suffix_cons ..).trans (List.suffix_append ..))

/-! ### Lines and characters -/

theorem lineCount_of_ne_nil {cs : List Char} (h : cs ≠ []) : lineCount cs = cs.count '\n' + 1 :=
  if_neg h

/-- An end of a text has no more lines than the text. -/
theorem lineCount_le_of_suffix {kept cs : List Char} (h : kept <:+ cs) :
    lineCount kept ≤ lineCount cs := by
  by_cases hnil : kept = []
  · rw [hnil]
    exact Nat.zero_le _
  · have hne : cs ≠ [] := by
      rintro rfl
      exact hnil (List.suffix_nil.1 h)
    rw [lineCount_of_ne_nil hnil, lineCount_of_ne_nil hne]
    exact Nat.succ_le_succ (h.sublist.count_le '\n')

theorem lineCount_joinWith_le {ls : List (List Char)} (h : ∀ l ∈ ls, '\n' ∉ l) :
    lineCount (joinWith ['\n'] ls) ≤ ls.length := by
  by_cases hnil : joinWith ['\n'] ls = []
  · rw [hnil]
    exact Nat.zero_le _
  · have hne : ls ≠ [] := by
      rintro rfl
      exact hnil rfl
    rw [lineCount_of_ne_nil hnil]
    exact Nat.le_of_eq (count_joinWith hne h)

section LastOf

variable {α : Type}

theorem lastOf_suffix (n : Nat) (items : List α) : lastOf n items <:+ items := List.drop_suffix ..

theorem length_lastOf (n : Nat) (items : List α) :
    (lastOf n items).length = min n items.length := by
  rw [lastOf, List.length_drop]
  omega

theorem lastOf_of_length_le {n : Nat} {items : List α} (h : items.length ≤ n) :
    lastOf n items = items := by
  rw [lastOf, Nat.sub_eq_zero_of_le h, List.drop_zero]

/-- Of the ends that are short enough the last items are the longest. -/
theorem suffix_lastOf {n : Nat} {other items : List α} (h : other <:+ items)
    (hlength : other.length ≤ n) : other <:+ lastOf n items := by
  refine List.suffix_of_suffix_length_le h (lastOf_suffix n items) ?_
  rw [length_lastOf]
  exact Nat.le_min.2 ⟨hlength, h.length_le⟩

/-- What stands in front of the last items, if not all of them are last. -/
theorem exists_append_lastOf {n : Nat} {items : List α} (h : n < items.length) :
    ∃ front, front ≠ [] ∧ items = front ++ lastOf n items := by
  refine ⟨items.take (items.length - n), ?_, (List.take_append_drop ..).symm⟩
  intro hnil
  have hlength := congrArg List.length hnil
  rw [List.length_take, List.length_nil] at hlength
  omega

end LastOf

/-- Where lines are cut, a line feed stands in front of the last lines, unless none are kept. -/
theorem lastLines_of_lt {maxLines : Nat} {cs : List Char} (h : maxLines < (lines cs).length) :
    maxLines = 0 ∧ lastLines maxLines cs = [] ∨
      (lastLines maxLines cs).count '\n' + 1 = maxLines ∧
        '\n' :: lastLines maxLines cs <:+ joinedLines cs := by
  obtain ⟨front, hfront, hsplit⟩ := exists_append_lastOf h
  have hlength := length_lastOf maxLines (lines cs)
  by_cases hnone : lastOf maxLines (lines cs) = []
  · rw [hnone, List.length_nil] at hlength
    refine Or.inl ⟨by omega, ?_⟩
    rw [lastLines, hnone]
    rfl
  · refine Or.inr ⟨?_, joinWith ['\n'] front, ?_⟩
    · rw [lastLines, count_joinWith hnone fun l hl =>
        not_mem_of_mem_lines ((lastOf_suffix maxLines _).subset hl)]
      omega
    · have hjoined : joinedLines cs = joinWith ['\n'] (front ++ lastOf maxLines (lines cs)) :=
        congrArg (joinWith ['\n']) hsplit
      rw [hjoined, joinWith_append hfront hnone]
      rfl

/-- All lines are last if there are few. -/
theorem lastLines_of_le {maxLines : Nat} {cs : List Char} (h : (lines cs).length ≤ maxLines) :
    lastLines maxLines cs = joinedLines cs := by
  rw [lastLines, lastOf_of_length_le h, joinedLines]

theorem lastLines_suffix (maxLines : Nat) (cs : List Char) :
    lastLines maxLines cs <:+ joinedLines cs := by
  rcases Nat.lt_or_ge maxLines (lines cs).length with hcut | hall
  · rcases lastLines_of_lt hcut with ⟨-, hnil⟩ | ⟨-, hfeed⟩
    · rw [hnil]
      exact List.nil_suffix
    · exact (List.suffix_cons ..).trans hfeed
  · exact ⟨[], lastLines_of_le hall⟩

/-- The last lines are the longest end with so many lines. -/
theorem suffix_lastLines {maxLines : Nat} {cs other : List Char} (h : other <:+ joinedLines cs)
    (hlines : lineCount other ≤ maxLines) : other <:+ lastLines maxLines cs := by
  rcases Nat.lt_or_ge maxLines (lines cs).length with hcut | hall
  · rcases lastLines_of_lt hcut with ⟨hzero, -⟩ | ⟨hcount, hfeed⟩
    · -- without lines the other end has no characters
      cases other with
      | nil => exact List.nil_suffix
      | cons c other =>
          rw [lineCount_of_ne_nil (by simp)] at hlines
          omega
    · -- an end that is longer has the line feed in front of the last lines too
      rcases List.suffix_or_suffix_of_suffix h hfeed with hshort | hlong
      · rcases List.suffix_cons_iff.1 hshort with heq | hshort
        · rw [lineCount_of_ne_nil (by simp [heq]), heq, List.count_cons_self] at hlines
          omega
        · exact hshort
      · have hmore := lineCount_le_of_suffix hlong
        rw [lineCount_of_ne_nil (by simp), List.count_cons_self] at hmore
        omega
  · rwa [lastLines_of_le hall]

/-! ### What is kept -/

/-- **What is kept is the longest end within the bounds.** -/
theorem isTail_lastOf (maxLines maxChars : Nat) (cs : List Char) :
    IsTail maxLines maxChars (joinedLines cs) (lastOf maxChars (lastLines maxLines cs)) := by
  have hlines : lineCount (lastLines maxLines cs) ≤ maxLines := by
    refine Nat.le_trans (lineCount_joinWith_le fun l hl => ?_) ?_
    · exact not_mem_of_mem_lines ((lastOf_suffix maxLines _).subset hl)
    · rw [length_lastOf]
      exact Nat.min_le_left ..
  have hkept := lastOf_suffix maxChars (lastLines maxLines cs)
  refine ⟨hkept.trans (lastLines_suffix maxLines cs),
    Nat.le_trans (lineCount_le_of_suffix hkept) hlines, ?_, ?_⟩
  · rw [length_lastOf]
    exact Nat.min_le_left ..
  · intro other hother hcount hlength
    exact suffix_lastOf (suffix_lastLines hother hcount) hlength

/-- The mark in front of what is kept, which stands there if characters were cut. -/
def markOf (maxLines maxChars : Nat) (cs : List Char) : List Char :=
  if maxChars < (lastLines maxLines cs).length then cutMark else []

theorem tailChars_eq (maxLines maxChars : Nat) (cs : List Char) :
    tailChars maxLines maxChars cs =
      markOf maxLines maxChars cs ++ lastOf maxChars (lastLines maxLines cs) := by
  unfold tailChars markOf
  dsimp only
  split
  · rfl
  · rename_i hlt
    rw [lastOf_of_length_le (Nat.le_of_not_lt hlt)]
    rfl

/-! ### Differences -/

/-- The difference of two numbers, unless it is negative. -/
def differenceOf? (a b : Nat) : Option Nat := if b ≤ a then some (a - b) else none

/-- The items from an index on, unless it is too large. -/
def itemsFrom? {α : Type} (start : Nat) (items : List α) : Option (List α) :=
  if start ≤ items.length then some (items.drop start) else none

/-- The last items of a list. The difference is taken only where something is cut. -/
def lastChecked? {α : Type} (n : Nat) (items : List α) : Option (List α) :=
  if n < items.length then (differenceOf? items.length n).bind fun start => itemsFrom? start items
  else some items

/-- The end of a text, with every difference and every index checked. -/
def tailChecked? (maxLines maxChars : Nat) (cs : List Char) : Option (List Char) := do
  let last ← lastChecked? maxLines (lines cs)
  let kept := joinWith ['\n'] last
  let shown ← lastChecked? maxChars kept
  return if maxChars < kept.length then cutMark ++ shown else shown

theorem lastChecked?_eq {α : Type} (n : Nat) (items : List α) :
    lastChecked? n items = some (lastOf n items) := by
  unfold lastChecked?
  split
  · rename_i hlt
    rw [differenceOf?, if_pos (Nat.le_of_lt hlt), Option.bind_some, itemsFrom?,
      if_pos (Nat.sub_le ..)]
    rfl
  · rename_i hlt
    rw [lastOf_of_length_le (Nat.le_of_not_lt hlt)]

/-- **No difference is negative** and no index too large. -/
theorem tailChecked?_eq (maxLines maxChars : Nat) (cs : List Char) :
    tailChecked? maxLines maxChars cs = some (tailChars maxLines maxChars cs) := by
  have hkept : joinWith ['\n'] (lastOf maxLines (lines cs)) = lastLines maxLines cs := rfl
  simp only [tailChecked?, lastChecked?_eq, hkept, Option.bind_eq_bind, Option.bind_some]
  refine congrArg some ?_
  rw [tailChars_eq, markOf]
  split <;> rfl

end StandardsGate.Text
