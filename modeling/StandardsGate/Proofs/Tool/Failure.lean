import StandardsGate.Proofs.Text.Blank
import StandardsGate.Proofs.Text.Tail
import StandardsGate.Tool.Output

/-!
What is said of a tool that failed.

The message gives the command and the exit code, and then the end of what the tool printed, its errors
last. So a tool that prints much cannot make the message long, and it cannot push out the last line of
its errors.

Main results:

* `ToolOutput.describeFailure_eq` — **the parts of the message**;
* `ToolOutput.errors_suffix_printed` — the errors stand last in what the tool printed;
* `ToolOutput.lastLine_suffix` — **the end of the last line of the errors is always kept**;
* `ToolOutput.describeFailure_bounded` — both for every text and every tool.
-/

namespace StandardsGate.ToolOutput

open Text (IsTail joinedLines lastLines lastOf lineCount markOf tailChars tailChecked? trimChars)

/-- The text that stands in front of what the tool printed. -/
def outputHeading : List Char := "\nOutput (truncated):\n".toList

/-- What a message keeps of what a tool printed. -/
def kept (t : ToolOutput) : List Char := lastOf maxChars (lastLines maxLines t.printed)

/-- What a message keeps of a tool's output is the end of it. -/
theorem isTail_kept (t : ToolOutput) : IsTail 50 4096 (joinedLines t.printed) t.kept :=
  Text.isTail_lastOf 50 4096 t.printed

/-- Where characters are cut, some are kept. -/
theorem markOf_eq_nil {t : ToolOutput} (h : t.kept = []) : markOf maxLines maxChars t.printed = [] := by
  refine if_neg fun hlt => ?_
  have hlength : t.kept.length = min maxChars (lastLines maxLines t.printed).length :=
    Text.length_lastOf ..
  rw [h, List.length_nil, Nat.min_eq_left (Nat.le_of_lt hlt)] at hlength
  exact absurd hlength (by decide)

/-- **The parts of the message**: the command, the exit code, and what is kept of the output, if there
is any. -/
theorem describeFailure_eq (t : ToolOutput) (command : String) :
    (t.describeFailure command).toList =
      (command ++ " failed with exit code " ++ t.codeText).toList ++
        if t.kept = [] then []
        else outputHeading ++ (markOf maxLines maxChars t.printed ++ t.kept) := by
  have hshown : tailChars maxLines maxChars t.printed =
      markOf maxLines maxChars t.printed ++ t.kept := Text.tailChars_eq ..
  unfold describeFailure
  dsimp only
  rw [hshown]
  generalize command ++ " failed with exit code " ++ t.codeText = first
  by_cases hkept : t.kept = []
  · rw [hkept, markOf_eq_nil hkept, if_pos rfl, List.append_nil, List.append_nil, List.isEmpty_nil,
      if_pos rfl]
  · have hne : (markOf maxLines maxChars t.printed ++ t.kept).isEmpty = false := by
      simp [hkept]
    have hlist : (String.ofList (markOf maxLines maxChars t.printed ++ t.kept)).toList =
        markOf maxLines maxChars t.printed ++ t.kept := String.toList_ofList
    rw [hne, if_neg hkept, if_neg Bool.false_ne_true, String.toList_append, String.toList_append,
      hlist, List.append_assoc]
    rfl

/-! ### The errors -/

variable {t : ToolOutput}

/-- The errors, without blanks at their ends, stand last in what the tool printed. -/
theorem errors_suffix_printed (h : Text.isAllBlank t.errors = false) :
    trimChars t.errors.toList <:+ t.printed := by
  have hsome : t.errors.isEmpty = false := by
    rw [Bool.eq_false_iff]
    intro hempty
    rw [String.isEmpty_iff.1 hempty] at h
    cases h
  unfold printed
  rw [hsome, if_neg Bool.false_ne_true, List.append_cons]
  exact Text.trimChars_suffix_append _ _

theorem getLast?_trimChars_ne (cs : List Char) : (trimChars cs).getLast? ≠ some '\n' := by
  intro hfeed
  have hblank := (Text.isBlank_ends_trimChars cs).2 '\n' hfeed
  cases hblank

/-- **The end of the last line of the errors is always kept.** -/
theorem lastLine_suffix (h : Text.isAllBlank t.errors = false) :
    ∃ line, (Text.lines (trimChars t.errors.toList)).getLast? = some line ∧ line ≠ [] ∧
      lastOf 4096 line <:+ t.kept := by
  have hne : trimChars t.errors.toList ≠ [] := by
    rw [ne_eq, Text.trimChars_eq_nil_iff, h]
    exact Bool.false_ne_true
  obtain ⟨front, line, hlines, hline, hfeed, hshape⟩ :=
    Text.exists_lines_append hne (getLast?_trimChars_ne _)
  have hend : line <:+ trimChars t.errors.toList := by
    rcases hshape with ⟨-, heq⟩ | ⟨-, hsuffix⟩
    · exact ⟨[], heq.symm⟩
    · exact (List.suffix_cons ..).trans hsuffix
  refine ⟨line, by rw [hlines, List.getLast?_concat], hline, ?_⟩
  -- the end of the line is an end of the output within the bounds, and the longest one is kept
  have hpiece := Text.lastOf_suffix 4096 line
  refine (isTail_kept t).longest _ ?_ ?_ ?_
  · refine hpiece.trans (Text.suffix_joinedLines (getLast?_trimChars_ne _) ?_ hfeed)
    exact hend.trans (errors_suffix_printed h)
  · refine Nat.le_trans (Text.lineCount_le_of_suffix hpiece) ?_
    rw [Text.lineCount_of_ne_nil hline, List.count_eq_zero.2 hfeed]
    decide
  · rw [Text.length_lastOf]
    exact Nat.min_le_left ..

/-! ### Messages -/

/-- **Messages are bounded and keep the end.** For every text and all bounds, what is kept of the text
is the longest end of its joined lines that stays within the bounds, and all of them if they stay
within; a mark stands in front of it exactly if characters of the last lines were cut; and no
difference that is taken on the way is negative. So a message about a tool that failed holds 50 lines
and 4096 characters of its output at most, besides the fixed text; and if there are errors that are
not blank, it ends in the last line of them, or in the last 4096 characters of that line if it is
longer. -/
theorem describeFailure_bounded (maxLines maxChars : Nat) (text : String) (t : ToolOutput)
    (command : String) :
    (∃ shown, IsTail maxLines maxChars (joinedLines text.toList) shown ∧
      (Text.tail maxLines maxChars text).toList =
        markOf maxLines maxChars text.toList ++ shown) ∧
    (lineCount (joinedLines text.toList) ≤ maxLines →
      (joinedLines text.toList).length ≤ maxChars →
        (Text.tail maxLines maxChars text).toList = joinedLines text.toList) ∧
    tailChecked? maxLines maxChars text.toList = some (Text.tail maxLines maxChars text).toList ∧
    (∃ shown mark, IsTail 50 4096 (joinedLines t.printed) shown ∧
      (mark = [] ∨ mark = Text.cutMark) ∧
      (t.describeFailure command).toList =
        (command ++ " failed with exit code " ++ t.codeText).toList ++
          if shown = [] then [] else outputHeading ++ (mark ++ shown)) ∧
    (Text.isAllBlank t.errors = false →
      ∃ line, (Text.lines (trimChars t.errors.toList)).getLast? = some line ∧
        (line.length ≤ 4096 → line <:+ (t.describeFailure command).toList) ∧
        (4096 < line.length →
          line.drop (line.length - 4096) <:+ (t.describeFailure command).toList)) := by
  have htail : (Text.tail maxLines maxChars text).toList =
      tailChars maxLines maxChars text.toList := String.toList_ofList
  have hlongest := Text.isTail_lastOf maxLines maxChars text.toList
  rw [htail, Text.tailChars_eq]
  refine ⟨⟨_, hlongest, rfl⟩, fun hlines hchars => ?_, ?_, ?_, fun h => ?_⟩
  · have hwhole := hlongest.eq_whole hlines hchars
    have hshort := Nat.le_trans (Text.lastLines_suffix maxLines text.toList).length_le hchars
    rw [hwhole, markOf, if_neg (Nat.not_lt.2 hshort)]
    rfl
  · rw [Text.tailChecked?_eq, Text.tailChars_eq]
  · refine ⟨t.kept, _, isTail_kept t, ?_, describeFailure_eq t command⟩
    unfold markOf
    split
    · exact Or.inr rfl
    · exact Or.inl rfl
  · obtain ⟨line, hlast, hline, hsuffix⟩ := lastLine_suffix h
    have hpiece : lastOf 4096 line <:+ (t.describeFailure command).toList := by
      have hsome : t.kept ≠ [] := by
        intro hnil
        rw [hnil, List.suffix_nil, ← List.length_eq_zero_iff, Text.length_lastOf] at hsuffix
        have hpos := List.length_pos_iff.2 hline
        omega
      rw [describeFailure_eq, if_neg hsome]
      refine hsuffix.trans ?_
      rw [← List.append_assoc, ← List.append_assoc]
      exact List.suffix_append ..
    refine ⟨line, hlast, fun hshort => ?_, fun _ => hpiece⟩
    rwa [Text.lastOf_of_length_le hshort] at hpiece

/-- A tool that printed something, and errors of two lines. -/
def grumbling : ToolOutput := ⟨some 2, "checked\r\n", " warning\r\nno caf\u00e9 found\r\n"⟩

/-- A short text is kept as a whole, and the last line of the errors ends the message. -/
theorem describeFailure_grumbling :
    (Text.tail 2 9 "ab\r\nc\n").toList = "ab\nc".toList ∧
      Text.isAllBlank grumbling.errors = false ∧
      (Text.lines (trimChars grumbling.errors.toList)).getLast? = some "no caf\u00e9 found".toList ∧
      "no caf\u00e9 found".toList <:+ (grumbling.describeFailure "lint").toList := by
  have hjoined : joinedLines "ab\r\nc\n".toList = "ab\nc".toList := by decide +kernel
  have herrors : Text.isAllBlank grumbling.errors = false := by decide +kernel
  have hlast : (Text.lines (trimChars grumbling.errors.toList)).getLast? =
      some "no caf\u00e9 found".toList := by
    decide +kernel
  obtain ⟨-, hwhole, -, -, hmessage⟩ := describeFailure_bounded 2 9 "ab\r\nc\n" grumbling "lint"
  rw [hjoined] at hwhole
  obtain ⟨line, hline, hshort, -⟩ := hmessage herrors
  obtain rfl : "no caf\u00e9 found".toList = line := Option.some.inj (hlast.symm.trans hline)
  exact ⟨hwhole (by decide +kernel) (by decide +kernel), herrors, hlast, hshort (by decide +kernel)⟩

end StandardsGate.ToolOutput
