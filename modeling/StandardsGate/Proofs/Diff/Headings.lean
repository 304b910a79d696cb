import StandardsGate.Proofs.Diff.Ranges

/-!
Headings behind the ranges of a header.

Behind the ranges of a header stands a heading, which is a piece of the source and may be anything.
If the ranges end in one of the new file, the number of the header is that of this range, whatever
the heading is. If they do not, the search goes on in the heading, and a piece of the source that
looks like a range gives the header its number.

Main definitions:

* `HunkHeader.withHeading` — a header of ranges and a heading;
* `HunkHeader.EndsWithRange` — whether ranges end in one of the new file.

Main results:

* `HunkHeader.beginsWithRange_closing_iff` — at signs end a range;
* `HunkHeader.firstStart?_of_endsWithRange`, `HunkHeader.firstStart?_of_not_endsWithRange` — where
  the search ends;
* `HunkHeader.newStart?_withHeading` — **when headings do not matter**;
* `HunkHeader.newStart?_heading_misread` — a heading that does.
-/

namespace StandardsGate.HunkHeader

open Text (decimalValue)

/-- A header: ranges between at signs, and a heading. -/
def withHeading (ranges heading : List Char) : List Char :=
  ['@', '@', ' '] ++ (ranges ++ (closing ++ heading))

/-- Whether ranges end in one of the new file, with a first numeral. -/
def EndsWithRange (ds ranges : List Char) : Prop :=
  ∃ front text, IsRange ds text ∧ ranges = front ++ '+' :: text

theorem EndsWithRange.isNumeral {ds ranges : List Char} (h : EndsWithRange ds ranges) :
    IsNumeral ds := by
  obtain ⟨_, _, htext, _⟩ := h
  exact htext.1

/-! ### At signs end a range -/

/-- Ranges have digits and perhaps a comma. -/
theorem IsRange.isDigit_or {ds text : List Char} (h : IsRange ds text) {c : Char} (hc : c ∈ text) :
    c.isDigit = true ∨ c = ',' := by
  obtain ⟨⟨-, hds⟩, count, hcount, rfl⟩ := h
  rcases List.mem_append.1 hc with hc | hc
  · exact Or.inl (hds c hc)
  · rcases hcount with rfl | ⟨es, ⟨-, hes⟩, rfl⟩
    · cases hc
    · exact (List.mem_cons.1 hc).symm.imp_left (hes c)

theorem IsRange.not_mem {ds text : List Char} (h : IsRange ds text) {c : Char}
    (hdigit : c.isDigit = false) (hcomma : c ≠ ',') : c ∉ text := by
  intro hc
  rcases h.isDigit_or hc with hc | rfl
  · rw [hdigit] at hc
    cases hc
  · exact hcomma rfl

/-- A text that is closed twice holds at signs before the second time. -/
theorem marker_infix_of_closing {cs xs ys : List Char} (hne : cs ≠ [])
    (h : cs ++ (closing ++ xs) = closing ++ ys) : marker <:+: cs := by
  match cs, h with
  | [], _ => exact absurd rfl hne
  | [a], h => simp [closing] at h
  | [a, b], h => simp [closing] at h
  | a :: b :: c :: cs, h =>
      obtain ⟨-, hb, hc, -⟩ : a = ' ' ∧ b = '@' ∧ c = '@' ∧ cs ++ (closing ++ xs) = ys := by
        simpa [closing] using h
      exact ⟨[a], cs, by simp [marker, hb, hc]⟩

/-- **At signs end a range**: what stands behind them is no part of it. -/
theorem beginsWithRange_closing_iff {xs : List Char} (h : ¬ marker <:+: xs) (ds ys : List Char) :
    BeginsWithRange ds (xs ++ (closing ++ ys)) ↔ IsRange ds xs := by
  constructor
  · rintro ⟨text, htext, rest, hrest⟩
    rw [List.append_assoc] at hrest
    rcases List.append_eq_append_iff.1 hrest with ⟨cs, hxs, hcs⟩ | ⟨cs, rfl, hcs⟩
    · -- the range is closed in `xs`, or just behind it
      by_cases hnil : cs = []
      · subst hnil
        rw [List.append_nil] at hxs
        exact hxs ▸ htext
      · have hmarker : marker <:+: cs := marker_infix_of_closing hnil hcs.symm
        exact absurd (hmarker.trans ⟨text, [], by simp [hxs]⟩) h
    · -- the range would go on behind `xs`, where a blank stands
      cases cs with
      | nil => simpa using htext
      | cons c cs =>
          obtain ⟨rfl, -⟩ := List.cons.inj hcs
          exact absurd (by simp) (htext.not_mem (c := ' ') (by decide) (by decide))
  · intro hxs
    exact ⟨xs, hxs, ys, by simp⟩

/-! ### The search -/

/-- A range at the end of the ranges is found. -/
theorem firstStart?_of_endsWithRange {ds ranges : List Char} (h : ¬ marker <:+: ranges)
    (hends : EndsWithRange ds ranges) (heading : List Char) :
    firstStart? (ranges ++ (closing ++ heading)) = some (decimalValue ds) := by
  obtain ⟨front, text, htext, rfl⟩ := hends
  induction front with
  | nil =>
      refine firstStart?_of_zero (rangeAt_zero.2 ⟨rfl, ?_⟩)
      exact (beginsWithRange_closing_iff (mt List.infix_cons h) ds heading).2 htext
  | cons c front ih =>
      have hrest : ¬ marker <:+: front ++ '+' :: text := mt List.infix_cons h
      rw [List.cons_append, List.cons_append, firstStart?_of_not_zero, ih hrest]
      intro es hes
      have hrange := (beginsWithRange_closing_iff hrest es heading).1 (rangeAt_zero.1 hes).2
      exact hrange.not_mem (c := '+') (by decide) (by decide) (by simp)

/-- Otherwise the search goes on in the heading. -/
theorem firstStart?_of_not_endsWithRange {ranges : List Char} (h : ¬ marker <:+: ranges)
    (hends : ∀ ds, ¬ EndsWithRange ds ranges) (heading : List Char) :
    firstStart? (ranges ++ (closing ++ heading)) = firstStart? heading := by
  induction ranges with
  | nil => exact firstStart?_append (by decide) heading
  | cons c ranges ih =>
      have hrest : ¬ marker <:+: ranges := mt List.infix_cons h
      rw [List.cons_append, firstStart?_of_not_zero]
      · refine ih hrest fun ds hds => hends ds ?_
        obtain ⟨front, text, htext, rfl⟩ := hds
        exact ⟨c :: front, text, htext, rfl⟩
      · intro ds hds
        obtain ⟨rfl, hrange⟩ := rangeAt_zero.1 hds
        exact hends ds ⟨[], ranges, (beginsWithRange_closing_iff hrest ds heading).1 hrange, rfl⟩

/-- What stands in front of the ranges does not matter. -/
theorem firstStart?_withHeading (ranges heading : List Char) :
    firstStart? (withHeading ranges heading) = firstStart? (ranges ++ (closing ++ heading)) :=
  firstStart?_append (by decide) _

/-! ### Headings -/

/-- **When headings do not matter.** If the ranges end in one of the new file, the header gives its
number, or none if that is too large, whatever the heading is; so it is with ranges as they are
printed. Otherwise the header gives the number that the heading gives when it is read as a header,
and none exactly if the heading gives none. So all headings are alike exactly behind ranges that end
in one of the new file. -/
theorem newStart?_withHeading {ranges : List Char} (h : ¬ marker <:+: ranges) :
    (∀ ds n heading, EndsWithRange ds ranges → Denotes ds n →
      newStart? (withHeading ranges heading) = if n < numberLimit then some n else none) ∧
    (∀ heading, (∀ ds, ¬ EndsWithRange ds ranges) →
      newStart? (withHeading ranges heading) = newStart? heading) ∧
    ((∀ heading heading', newStart? (withHeading ranges heading) =
        newStart? (withHeading ranges heading')) ↔ ∃ ds, EndsWithRange ds ranges) := by
  have hends : ∀ ds n heading, EndsWithRange ds ranges → Denotes ds n →
      newStart? (withHeading ranges heading) = if n < numberLimit then some n else none := by
    intro ds n heading hds hn
    unfold newStart?
    rw [firstStart?_withHeading, firstStart?_of_endsWithRange h hds,
      (denotes_iff hds.isNumeral n).1 hn]
  have hopen : ∀ heading, (∀ ds, ¬ EndsWithRange ds ranges) →
      newStart? (withHeading ranges heading) = newStart? heading := by
    intro heading hnot
    unfold newStart?
    rw [firstStart?_withHeading, firstStart?_of_not_endsWithRange h hnot]
  refine ⟨hends, hopen, ?_⟩
  constructor
  · intro hsame
    by_contra hnone
    have hnot : ∀ ds, ¬ EndsWithRange ds ranges := fun ds hds => hnone ⟨ds, hds⟩
    have hread := hsame [] "+0 @@".toList
    rw [hopen _ hnot, hopen _ hnot] at hread
    exact absurd hread (by decide +kernel)
  · rintro ⟨ds, hds⟩ heading heading'
    obtain ⟨n, hn⟩ := exists_denotes hds.isNumeral
    rw [hends ds n heading hds hn, hends ds n heading' hds hn]

/-- Ranges with zeros in front of a number, before a heading that looks like a range. -/
theorem newStart?_withHeading_zeros :
    ¬ marker <:+: "-3,2 +0007,4".toList ∧ EndsWithRange "0007".toList "-3,2 +0007,4".toList ∧
      Denotes "0007".toList 7 ∧
      newStart? (withHeading "-3,2 +0007,4".toList " x = +9 @@".toList) = some 7 := by
  have hmarker : ¬ marker <:+: "-3,2 +0007,4".toList := by decide +kernel
  have hcount : IsCount [',', '4'] := Or.inr ⟨['4'], by simp [IsNumeral], rfl⟩
  have hends : EndsWithRange "0007".toList "-3,2 +0007,4".toList :=
    ⟨"-3,2 ".toList, "0007,4".toList, ⟨by simp [IsNumeral], _, hcount, rfl⟩, by decide +kernel⟩
  have hseven : Denotes "0007".toList 7 := ⟨3, by decide +kernel⟩
  exact ⟨hmarker, hends, hseven, (newStart?_withHeading hmarker).1 _ _ _ hends hseven⟩

/-- **A heading can give a header its number.** The ranges have none of the new file. -/
theorem newStart?_heading_misread :
    ¬ marker <:+: "-1,2".toList ∧ '+' ∉ "-1,2".toList ∧
      newStart? (withHeading "-1,2".toList []) = none ∧
      newStart? (withHeading "-1,2".toList " x = +5 @@".toList) = some 5 := by
  decide +kernel

end StandardsGate.HunkHeader
