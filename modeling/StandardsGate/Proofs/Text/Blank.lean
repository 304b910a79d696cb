import StandardsGate.Text.Blank
import Mathlib.Data.List.TakeWhile

/-!
Texts without white space at their ends.

Main results:

* `Text.trimStart_eq_self`, `Text.trimEnd_eq_self` — what has no blank at an end stays as it is;
* `Text.trimChars_eq_nil_iff` — only blanks are trimmed to nothing;
* `Text.trimChars_append_blanks`, `Text.exists_trimChars` — white space at the ends does not count;
* `Text.trimChars_suffix_append` — **trimming keeps the trimmed end of a text**;
* `Text.isBlank_ends_trimChars` — **a trimmed text has no blank at either end**;
* `Text.head?_trimChars` — what is no blank stays at the start.
-/

namespace StandardsGate.Text

theorem trimStart_eq_self {cs : List Char} (h : ∀ c ∈ cs.head?, isBlank c = false) :
    trimStart cs = cs := by
  cases cs with
  | nil => rfl
  | cons c cs => simp [trimStart, h c (by simp)]

theorem trimEnd_eq_self {cs : List Char} (h : ∀ c ∈ cs.getLast?, isBlank c = false) :
    trimEnd cs = cs := by
  have hrev : trimStart cs.reverse = cs.reverse :=
    trimStart_eq_self fun c hc => h c (by simpa using hc)
  unfold trimEnd
  unfold trimStart at hrev
  rw [hrev, List.reverse_reverse]

/-- Only blanks are trimmed to nothing. -/
theorem trimChars_eq_nil_iff (s : String) :
    trimChars s.toList = [] ↔ isAllBlank s = true := by
  rw [isAllBlank, List.all_eq_true, trimChars, trimEnd, List.reverse_eq_nil_iff,
    List.dropWhile_eq_nil_iff, trimStart]
  simp only [List.mem_reverse]
  constructor
  · intro h c hc
    rw [← List.takeWhile_append_dropWhile (p := isBlank) (l := s.toList), List.mem_append] at hc
    exact hc.elim List.mem_takeWhile_imp (h c)
  · exact fun h c hc => h c ((List.dropWhile_suffix _).subset hc)

/-- A blank behind a text is trimmed. -/
theorem trimChars_append_blank {c : Char} (hc : isBlank c = true) (cs : List Char) :
    trimChars (cs ++ [c]) = trimChars cs := by
  have hend : ∀ ds : List Char, trimEnd (ds ++ [c]) = trimEnd ds := by
    intro ds
    simp [trimEnd, hc]
  unfold trimChars trimStart
  rw [List.dropWhile_append]
  split
  · -- nothing but blanks stands in front, so both texts are empty when they are trimmed
    rename_i hnil
    rw [List.isEmpty_iff.1 hnil]
    simp [hc]
  · exact hend _

/-- Blanks behind a text are trimmed. -/
theorem trimChars_append_blanks {blanks : List Char} (h : ∀ c ∈ blanks, isBlank c = true)
    (cs : List Char) : trimChars (cs ++ blanks) = trimChars cs := by
  induction blanks generalizing cs with
  | nil => rw [List.append_nil]
  | cons c blanks ih =>
      obtain ⟨hc, hblanks⟩ := List.forall_mem_cons.1 h
      rw [← List.singleton_append, ← List.append_assoc, ih hblanks, trimChars_append_blank hc]

/-- Blanks in front of a text are trimmed. -/
theorem trimChars_blanks_append {blanks : List Char} (h : ∀ c ∈ blanks, isBlank c = true)
    (cs : List Char) : trimChars (blanks ++ cs) = trimChars cs :=
  congrArg trimEnd (List.dropWhile_append_of_pos h)

/-- What is trimmed is white space. -/
theorem exists_trimChars (cs : List Char) :
    ∃ before behind, cs = before ++ trimChars cs ++ behind ∧
      (∀ c ∈ before, isBlank c = true) ∧ ∀ c ∈ behind, isBlank c = true := by
  have hstart : cs = cs.takeWhile isBlank ++ trimStart cs :=
    List.takeWhile_append_dropWhile.symm
  have hend : trimStart cs =
      trimChars cs ++ ((trimStart cs).reverse.takeWhile isBlank).reverse := by
    rw [trimChars, trimEnd, ← List.reverse_append, List.takeWhile_append_dropWhile,
      List.reverse_reverse]
  refine ⟨cs.takeWhile isBlank, ((trimStart cs).reverse.takeWhile isBlank).reverse, ?_,
    fun c => List.mem_takeWhile_imp, fun c hc => List.mem_takeWhile_imp (List.mem_reverse.1 hc)⟩
  rw [List.append_assoc, ← hend, ← hstart]

theorem trimEnd_isPrefix (cs : List Char) : trimEnd cs <+: cs := by
  rw [← List.reverse_suffix, trimEnd, List.reverse_reverse]
  exact List.dropWhile_suffix _

theorem isBlank_head?_trimStart (cs : List Char) {c : Char} (h : c ∈ (trimStart cs).head?) :
    isBlank c = false := by
  have hnot := List.head?_dropWhile_not isBlank cs
  have hhead : (cs.dropWhile isBlank).head? = some c := h
  rw [hhead] at hnot
  simpa using hnot

/-- **A trimmed text has no blank at either end.** -/
theorem isBlank_ends_trimChars (cs : List Char) :
    (∀ c ∈ (trimChars cs).head?, isBlank c = false) ∧
      ∀ c ∈ (trimChars cs).getLast?, isBlank c = false := by
  constructor
  · -- what is trimmed at the end keeps its first character
    intro c hc
    obtain ⟨rest, hrest⟩ := trimEnd_isPrefix (trimStart cs)
    refine isBlank_head?_trimStart cs ?_
    rw [← hrest, List.head?_append]
    simp only [trimChars, Option.mem_def] at hc
    simp [hc]
  · intro c hc
    refine isBlank_head?_trimStart (trimStart cs).reverse ?_
    rw [trimChars, trimEnd, List.getLast?_reverse] at hc
    exact hc

theorem trimEnd_append_blanks {blanks : List Char} (h : ∀ c ∈ blanks, isBlank c = true)
    (cs : List Char) : trimEnd (cs ++ blanks) = trimEnd cs := by
  rw [trimEnd, List.reverse_append,
    List.dropWhile_append_of_pos fun c hc => h c (List.mem_reverse.1 hc)]
  rfl

/-- **Trimming keeps the trimmed end of a text**, if there is one. -/
theorem trimChars_suffix_append (cs ds : List Char) : trimChars ds <:+ trimChars (cs ++ ds) := by
  by_cases hnil : trimChars ds = []
  · rw [hnil]
    exact List.nil_suffix
  rw [trimChars.eq_1 (cs ++ ds), trimStart, List.dropWhile_append]
  split
  · exact List.suffix_rfl
  · obtain ⟨before, behind, hds, -, hbehind⟩ := exists_trimChars ds
    have hend : ∀ c ∈ (cs.dropWhile isBlank ++ (before ++ trimChars ds)).getLast?,
        isBlank c = false := by
      intro c hc
      obtain ⟨last, hlast⟩ := Option.ne_none_iff_exists'.1 (mt List.getLast?_eq_none_iff.1 hnil)
      rw [← List.append_assoc, List.getLast?_append, hlast, Option.some_or] at hc
      exact (isBlank_ends_trimChars ds).2 c (hlast.trans hc)
    have hsplit : cs.dropWhile isBlank ++ ds =
        cs.dropWhile isBlank ++ (before ++ trimChars ds) ++ behind := by
      rw [List.append_assoc, ← hds]
    rw [hsplit, trimEnd_append_blanks hbehind, trimEnd_eq_self hend, ← List.append_assoc]
    exact List.suffix_append ..

/-- A text stays as it is if no white space stands at its ends, and only then. -/
theorem trimChars_eq_self_iff {cs : List Char} :
    trimChars cs = cs ↔
      (∀ c ∈ cs.head?, isBlank c = false) ∧ ∀ c ∈ cs.getLast?, isBlank c = false := by
  constructor
  · intro h
    rw [← h]
    exact isBlank_ends_trimChars cs
  · rintro ⟨hhead, hlast⟩
    rw [trimChars, trimStart_eq_self hhead, trimEnd_eq_self hlast]

/-- A character that is no blank stays at the start. -/
theorem head?_trimChars {c : Char} (hc : isBlank c = false) (cs : List Char) :
    (trimChars (c :: cs)).head? = some c := by
  have hstart : trimStart (c :: cs) = c :: cs := trimStart_eq_self (by simpa using hc)
  rw [trimChars, hstart, trimEnd, List.reverse_cons, List.dropWhile_append]
  split <;> simp [hc]

end StandardsGate.Text
