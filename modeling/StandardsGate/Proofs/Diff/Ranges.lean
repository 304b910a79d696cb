import Mathlib.Data.List.Induction
import Mathlib.Data.List.TakeWhile
import StandardsGate.Proofs.Diff.HunkHeader

/-!
Where a header gives its number.

A header is searched from the left for a plus sign with a range behind it: a numeral, perhaps a
comma and a second numeral, and then a blank and two at signs. The first such place decides. If its
first numeral stands for a number of 64 bits, the header gives that number, and otherwise none;
what stands further on is not looked at.

Main definitions:

* `HunkHeader.IsRange` — the texts of ranges, with their first numeral;
* `HunkHeader.RangeAt`, `HunkHeader.FirstRangeAt` — where ranges stand in a header;
* `HunkHeader.Denotes` — the number that a numeral stands for.

Main results:

* `HunkHeader.rangeStart?_eq_some_iff` — what is read behind a plus sign;
* `HunkHeader.firstStart?_eq_some_iff`, `HunkHeader.firstStart?_eq_none_iff` — **the search stops at
  the first range**;
* `HunkHeader.denotes_iff` — zeros in front of a numeral do not matter;
* `HunkHeader.newStart?_exact` — **which number a header gives**.
-/

namespace StandardsGate.HunkHeader

open Text (decimalValue)

/-- Numerals have digits, and nothing else. -/
def IsNumeral (ds : List Char) : Prop := ds ≠ [] ∧ ∀ d ∈ ds, d.isDigit = true

/-- The length of a range may be given: a comma and a numeral. -/
def IsCount (cs : List Char) : Prop := cs = [] ∨ ∃ ds, IsNumeral ds ∧ cs = ',' :: ds

/-- What stands behind the ranges of a header. -/
def closing : List Char := [' ', '@', '@']

/-- The texts of ranges: a numeral, perhaps a count. -/
def IsRange (ds text : List Char) : Prop := IsNumeral ds ∧ ∃ count, IsCount count ∧ text = ds ++ count

/-- Whether a text begins with a range and what closes it. -/
def BeginsWithRange (ds cs : List Char) : Prop := ∃ text, IsRange ds text ∧ text ++ closing <+: cs

/-- Whether a plus sign stands at a place of a header, with a range behind it that begins with the
numeral `ds`. -/
def RangeAt (header : List Char) (i : Nat) (ds : List Char) : Prop :=
  ∃ rest, header.drop i = '+' :: rest ∧ BeginsWithRange ds rest

/-- Whether the first range of a header stands at a place. -/
def FirstRangeAt (header : List Char) (i : Nat) (ds : List Char) : Prop :=
  RangeAt header i ds ∧ ∀ j < i, ∀ es, ¬ RangeAt header j es

/-- The number that a numeral stands for: its digits, behind any number of zeros. -/
def Denotes (ds : List Char) (n : Nat) : Prop :=
  ∃ zeros, ds = List.replicate zeros '0' ++ Nat.toDigits 10 n

/-! ### Numerals -/

theorem decimalValue_append (ds : List Char) (d : Char) :
    decimalValue (ds ++ [d]) = decimalValue ds * 10 + (d.toNat - '0'.toNat) := by
  simp [decimalValue]

theorem decimalValue_zeros (zeros : Nat) (ds : List Char) :
    decimalValue (List.replicate zeros '0' ++ ds) = decimalValue ds := by
  induction zeros with
  | zero => rfl
  | succ zeros ih =>
      rw [← ih]
      rfl

/-- A digit is written as itself. -/
theorem toDigits_digit {d : Char} (h : d.isDigit = true) :
    d.toNat - '0'.toNat < 10 ∧ Nat.toDigits 10 (d.toNat - '0'.toNat) = [d] := by
  have hbounds : 48 ≤ d.toNat ∧ d.toNat ≤ 57 := Char.isDigit_iff_toNat.1 h
  have hlt : d.toNat - '0'.toNat < 10 := by
    change d.toNat - 48 < 10
    omega
  refine ⟨hlt, ?_⟩
  rw [Nat.toDigits_of_lt_base hlt]
  have hchar : Char.ofNat d.toNat = d := Char.ofNat_toNat d
  have hwritten : ∀ n < 10, Nat.digitChar n = Char.ofNat (48 + n) := by decide
  rw [hwritten _ hlt]
  change [Char.ofNat (48 + (d.toNat - 48))] = [d]
  rw [Nat.add_sub_cancel' hbounds.1, hchar]

/-- A numeral that does not begin with a zero is the one that is printed. -/
theorem toDigits_decimalValue {d : Char} {ds : List Char} (hzero : d ≠ '0')
    (hdigits : ∀ e ∈ d :: ds, e.isDigit = true) :
    0 < decimalValue (d :: ds) ∧ Nat.toDigits 10 (decimalValue (d :: ds)) = d :: ds := by
  induction ds using List.reverseRecOn with
  | nil =>
      obtain ⟨-, hwritten⟩ := toDigits_digit (hdigits d (List.mem_singleton_self d))
      have hvalue : decimalValue [d] = d.toNat - '0'.toNat := by simp [decimalValue]
      rw [hvalue]
      refine ⟨Nat.pos_of_ne_zero fun hnone => hzero ?_, hwritten⟩
      rw [hnone] at hwritten
      exact (List.singleton_inj.1 hwritten).symm
  | append_singleton ds e ih =>
      obtain ⟨hpos, hwritten⟩ := ih fun c hc => hdigits c (by
        rcases List.mem_cons.1 hc with rfl | hc <;> simp [*])
      obtain ⟨hlt, hlast⟩ := toDigits_digit (hdigits e (by simp))
      rw [← List.cons_append, decimalValue_append]
      refine ⟨by omega, ?_⟩
      rw [Nat.mul_comm, ← Nat.toDigits_append_toDigits (by decide) hpos hlt, hwritten, hlast]

/-- The zeros in front of a text can be told from the rest. -/
theorem exists_zeros_append (ds : List Char) :
    ∃ zeros rest, ds = List.replicate zeros '0' ++ rest ∧ rest.head? ≠ some '0' := by
  induction ds with
  | nil => exact ⟨0, [], rfl, by simp⟩
  | cons d ds ih =>
      by_cases hd : d = '0'
      · obtain ⟨zeros, rest, rfl, hrest⟩ := ih
        exact ⟨zeros + 1, rest, by rw [hd]; rfl, hrest⟩
      · exact ⟨0, d :: ds, rfl, by simpa using hd⟩

/-- **Zeros in front of a numeral do not matter.** -/
theorem denotes_iff {ds : List Char} (h : IsNumeral ds) (n : Nat) :
    Denotes ds n ↔ decimalValue ds = n := by
  constructor
  · rintro ⟨zeros, rfl⟩
    rw [decimalValue_zeros, decimalValue_toDigits]
  · rintro rfl
    obtain ⟨hne, hdigits⟩ := h
    obtain ⟨zeros, rest, rfl, hrest⟩ := exists_zeros_append ds
    rw [decimalValue_zeros]
    cases rest with
    | nil =>
        -- of zeros alone the last one is the number
        cases zeros with
        | zero => exact absurd rfl hne
        | succ zeros =>
            refine ⟨zeros, ?_⟩
            rw [List.append_nil, List.replicate_succ']
            rfl
    | cons d es =>
        have hd : d ≠ '0' := fun hd => hrest (congrArg some hd)
        refine ⟨zeros, ?_⟩
        rw [(toDigits_decimalValue hd fun e he => hdigits e (List.mem_append_right _ he)).2]

/-- A numeral stands for a number. -/
theorem exists_denotes {ds : List Char} (h : IsNumeral ds) : ∃ n, Denotes ds n :=
  ⟨_, (denotes_iff h _).2 rfl⟩

/-! ### Behind a plus sign -/

/-- What is dropped as a count is one. -/
theorem exists_dropCount (cs : List Char) : ∃ count, IsCount count ∧ cs = count ++ dropCount cs := by
  unfold dropCount
  split
  · rename_i rest
    have hsplit := List.takeWhile_append_dropWhile (p := Char.isDigit) (l := rest)
    dsimp only
    split
    · exact ⟨[], Or.inl rfl, rfl⟩
    · rename_i hlength
      refine ⟨',' :: rest.takeWhile Char.isDigit, Or.inr ⟨_, ⟨?_, ?_⟩, rfl⟩, ?_⟩
      · intro hnil
        rw [hnil, List.nil_append] at hsplit
        exact hlength (congrArg List.length hsplit)
      · exact fun d hd => List.mem_takeWhile_imp hd
      · rw [List.cons_append, hsplit]
  · exact ⟨[], Or.inl rfl, rfl⟩

/-- Digits are read up to what is none. -/
theorem takeWhile_numeral {ds rest : List Char} (h : IsNumeral ds)
    (hrest : ∀ c ∈ rest.head?, c.isDigit = false) :
    (ds ++ rest).takeWhile Char.isDigit = ds ∧ (ds ++ rest).dropWhile Char.isDigit = rest := by
  rw [List.takeWhile_append_of_pos h.2, List.dropWhile_append_of_pos h.2]
  cases rest with
  | nil => simp
  | cons c rest =>
      have hc : c.isDigit = false := hrest c rfl
      simp [hc]

/-- A count in front of what closes the ranges is dropped. -/
theorem dropCount_append {count : List Char} (h : IsCount count) (rest : List Char) :
    dropCount (count ++ (closing ++ rest)) = closing ++ rest := by
  rcases h with rfl | ⟨ds, hds, rfl⟩
  · rfl
  · have hhead : ∀ c ∈ (closing ++ rest).head?, c.isDigit = false := by simp [closing]
    have hdrop := (takeWhile_numeral hds hhead).2
    have hlength : (closing ++ rest).length ≠ (ds ++ (closing ++ rest)).length := by
      have hpos := List.length_pos_iff.2 hds.1
      simp only [List.length_append]
      omega
    rw [List.cons_append, dropCount, hdrop]
    exact if_neg hlength

/-- The first numeral of a range is read as a whole. -/
theorem takeWhile_range {ds count : List Char} (hds : IsNumeral ds) (hcount : IsCount count)
    (rest : List Char) :
    (ds ++ count ++ closing ++ rest).takeWhile Char.isDigit = ds ∧
      dropCount ((ds ++ count ++ closing ++ rest).dropWhile Char.isDigit) = closing ++ rest := by
  have hhead : ∀ c ∈ (count ++ (closing ++ rest)).head?, c.isDigit = false := by
    rcases hcount with rfl | ⟨es, -, rfl⟩ <;> simp [closing]
  obtain ⟨htake, hdrop⟩ := takeWhile_numeral hds hhead
  rw [List.append_assoc, List.append_assoc, htake, hdrop]
  exact ⟨rfl, dropCount_append hcount rest⟩

/-- A text begins with one range at most. -/
theorem BeginsWithRange.takeWhile {ds cs : List Char} (h : BeginsWithRange ds cs) :
    cs.takeWhile Char.isDigit = ds := by
  obtain ⟨_, ⟨hds, count, hcount, rfl⟩, rest, rfl⟩ := h
  exact (takeWhile_range hds hcount rest).1

/-- **What is read behind a plus sign**: the first numeral of a range that is closed. -/
theorem rangeStart?_eq_some_iff {cs : List Char} {n : Nat} :
    rangeStart? cs = some n ↔ ∃ ds, BeginsWithRange ds cs ∧ decimalValue ds = n := by
  constructor
  · intro h
    unfold rangeStart? at h
    dsimp only at h
    split at h
    · cases h
    · rename_i hne
      split at h
      · rename_i hclosing
        obtain ⟨rest, hrest⟩ := List.isPrefixOf_iff_prefix.1 hclosing
        obtain ⟨count, hcount, hsplit⟩ := exists_dropCount (cs.dropWhile Char.isDigit)
        refine ⟨cs.takeWhile Char.isDigit, ⟨_, ⟨⟨?_, ?_⟩, count, hcount, rfl⟩, rest, ?_⟩,
          Option.some.inj h⟩
        · simpa using hne
        · exact fun d hd => List.mem_takeWhile_imp hd
        · calc cs.takeWhile Char.isDigit ++ count ++ closing ++ rest
              = cs.takeWhile Char.isDigit ++ (count ++ dropCount (cs.dropWhile Char.isDigit)) := by
                rw [← hrest]
                simp [closing]
            _ = cs := by rw [← hsplit, List.takeWhile_append_dropWhile]
      · cases h
  · rintro ⟨ds, ⟨_, ⟨hds, count, hcount, rfl⟩, rest, rfl⟩, rfl⟩
    obtain ⟨htake, hdrop⟩ := takeWhile_range hds hcount rest
    unfold rangeStart?
    rw [htake, hdrop]
    simp [hds.1, closing]

theorem rangeStart?_eq_none_iff {cs : List Char} :
    rangeStart? cs = none ↔ ∀ ds, ¬ BeginsWithRange ds cs := by
  rw [Option.eq_none_iff_forall_ne_some]
  constructor
  · exact fun h ds hds => h _ (rangeStart?_eq_some_iff.2 ⟨ds, hds, rfl⟩)
  · intro h n hn
    obtain ⟨ds, hds, -⟩ := rangeStart?_eq_some_iff.1 hn
    exact h ds hds

/-! ### The search -/

theorem not_rangeAt_nil (i : Nat) (ds : List Char) : ¬ RangeAt [] i ds := by
  rintro ⟨rest, hrest, -⟩
  simp at hrest

theorem rangeAt_zero {c : Char} {rest ds : List Char} :
    RangeAt (c :: rest) 0 ds ↔ c = '+' ∧ BeginsWithRange ds rest := by
  constructor
  · rintro ⟨_, hrest, hds⟩
    obtain ⟨rfl, rfl⟩ := List.cons.inj hrest
    exact ⟨rfl, hds⟩
  · rintro ⟨rfl, hds⟩
    exact ⟨rest, rfl, hds⟩

/-- The first range of a header that begins with a range stands there. -/
theorem firstRangeAt_of_zero {header ds : List Char} (h : RangeAt header 0 ds) {i : Nat}
    {es : List Char} : FirstRangeAt header i es ↔ i = 0 ∧ es = ds := by
  constructor
  · rintro ⟨hes, hfirst⟩
    cases i with
    | succ i => exact absurd h (hfirst 0 (Nat.succ_pos i) ds)
    | zero =>
        obtain ⟨rest, hrest, hds⟩ := h
        obtain ⟨rest', hrest', hes⟩ := hes
        obtain ⟨-, rfl⟩ := List.cons.inj (hrest.symm.trans hrest')
        exact ⟨rfl, by rw [← hes.takeWhile, hds.takeWhile]⟩
  · rintro ⟨rfl, rfl⟩
    exact ⟨h, fun j hj => absurd hj (Nat.not_lt_zero j)⟩

/-- The first range of other headers stands behind their first character. -/
theorem firstRangeAt_succ {c : Char} {rest : List Char} (h : ∀ es, ¬ RangeAt (c :: rest) 0 es)
    {i : Nat} {ds : List Char} :
    FirstRangeAt (c :: rest) (i + 1) ds ↔ FirstRangeAt rest i ds := by
  constructor
  · rintro ⟨hds, hfirst⟩
    exact ⟨hds, fun j hj => hfirst (j + 1) (Nat.succ_lt_succ hj)⟩
  · rintro ⟨hds, hfirst⟩
    refine ⟨hds, fun j hj => ?_⟩
    cases j with
    | zero => exact h
    | succ j => exact hfirst j (Nat.lt_of_succ_lt_succ hj)

/-- One step of the search: a range at the front decides. -/
theorem firstStart?_of_zero {c : Char} {rest ds : List Char} (h : RangeAt (c :: rest) 0 ds) :
    firstStart? (c :: rest) = some (decimalValue ds) := by
  obtain ⟨rfl, hds⟩ := rangeAt_zero.1 h
  rw [firstStart?, if_pos rfl, rangeStart?_eq_some_iff.2 ⟨ds, hds, rfl⟩]

/-- One step of the search: without a range at the front it goes on. -/
theorem firstStart?_of_not_zero {c : Char} {rest : List Char}
    (h : ∀ ds, ¬ RangeAt (c :: rest) 0 ds) : firstStart? (c :: rest) = firstStart? rest := by
  have hnone : (if c = '+' then rangeStart? rest else none) = none := by
    split
    · rename_i hc
      exact rangeStart?_eq_none_iff.2 fun ds hds => h ds (rangeAt_zero.2 ⟨hc, hds⟩)
    · rfl
  rw [firstStart?, hnone]

/-- **The search stops at the first range.** -/
theorem firstStart?_eq_some_iff {header : List Char} {n : Nat} :
    firstStart? header = some n ↔ ∃ i ds, FirstRangeAt header i ds ∧ decimalValue ds = n := by
  induction header with
  | nil =>
      constructor
      · intro h
        cases h
      · rintro ⟨i, ds, ⟨hds, -⟩, -⟩
        exact absurd hds (not_rangeAt_nil i ds)
  | cons c rest ih =>
      by_cases hzero : ∃ ds, RangeAt (c :: rest) 0 ds
      · obtain ⟨ds, hds⟩ := hzero
        rw [firstStart?_of_zero hds, Option.some.injEq]
        constructor
        · exact fun hn => ⟨0, ds, (firstRangeAt_of_zero hds).2 ⟨rfl, rfl⟩, hn⟩
        · rintro ⟨i, es, hes, hn⟩
          obtain ⟨-, rfl⟩ := (firstRangeAt_of_zero hds).1 hes
          exact hn
      · have hnot : ∀ ds, ¬ RangeAt (c :: rest) 0 ds := fun ds hds => hzero ⟨ds, hds⟩
        rw [firstStart?_of_not_zero hnot, ih]
        constructor
        · rintro ⟨i, ds, hds, hn⟩
          exact ⟨i + 1, ds, (firstRangeAt_succ hnot).2 hds, hn⟩
        · rintro ⟨i, ds, hds, hn⟩
          cases i with
          | zero => exact absurd hds.1 (hnot ds)
          | succ i => exact ⟨i, ds, (firstRangeAt_succ hnot).1 hds, hn⟩

/-- The search fails only where there is no range. -/
theorem firstStart?_eq_none_iff {header : List Char} :
    firstStart? header = none ↔ ∀ i ds, ¬ RangeAt header i ds := by
  induction header with
  | nil => exact iff_of_true rfl not_rangeAt_nil
  | cons c rest ih =>
      by_cases hzero : ∃ ds, RangeAt (c :: rest) 0 ds
      · obtain ⟨ds, hds⟩ := hzero
        rw [firstStart?_of_zero hds]
        exact iff_of_false (Option.some_ne_none _) fun h => h 0 ds hds
      · have hnot : ∀ ds, ¬ RangeAt (c :: rest) 0 ds := fun ds hds => hzero ⟨ds, hds⟩
        rw [firstStart?_of_not_zero hnot, ih]
        constructor
        · intro h i
          cases i with
          | zero => exact hnot
          | succ i => exact h i
        · exact fun h i => h (i + 1)

/-! ### Which number a header gives -/

theorem newStart?_eq_some_iff {header : List Char} {n : Nat} :
    newStart? header = some n ↔ firstStart? header = some n ∧ n < numberLimit := by
  unfold newStart?
  cases firstStart? header with
  | none => simp
  | some m =>
      by_cases hm : m < numberLimit
      · simp only [hm, if_true]
        exact ⟨fun h => ⟨h, Option.some.inj h ▸ hm⟩, And.left⟩
      · simp only [hm, if_false]
        refine iff_of_false (by simp) ?_
        rintro ⟨h, hlt⟩
        exact hm (Option.some.inj h ▸ hlt)

theorem newStart?_eq_none_iff {header : List Char} :
    newStart? header = none ↔
      firstStart? header = none ∨ ∃ n, firstStart? header = some n ∧ numberLimit ≤ n := by
  unfold newStart?
  cases firstStart? header with
  | none => simp
  | some m => simp

/-- **Which number a header gives.** It is the one for which the first numeral of the first range
stands, with zeros in front of it or not, if it has 64 bits. There is none exactly if there is no
range, or if the first one begins with a number that is too large, whatever stands behind it. -/
theorem newStart?_exact (header : List Char) :
    (∀ n, newStart? header = some n ↔
      ∃ i ds, FirstRangeAt header i ds ∧ Denotes ds n ∧ n < numberLimit) ∧
    (newStart? header = none ↔
      (∀ i ds, ¬ RangeAt header i ds) ∨
        ∃ i ds n, FirstRangeAt header i ds ∧ Denotes ds n ∧ numberLimit ≤ n) := by
  have hdenotes : ∀ {i ds n}, FirstRangeAt header i ds → (Denotes ds n ↔ decimalValue ds = n) := by
    rintro i ds n ⟨⟨_, -, _, ⟨hds, -⟩, -⟩, -⟩
    exact denotes_iff hds n
  have hfound : ∀ n, firstStart? header = some n ↔
      ∃ i ds, FirstRangeAt header i ds ∧ Denotes ds n := by
    intro n
    rw [firstStart?_eq_some_iff]
    exact exists_congr fun i => exists_congr fun ds => and_congr_right fun h => (hdenotes h).symm
  constructor
  · intro n
    rw [newStart?_eq_some_iff, hfound]
    constructor
    · rintro ⟨⟨i, ds, hds, hn⟩, hlt⟩
      exact ⟨i, ds, hds, hn, hlt⟩
    · rintro ⟨i, ds, hds, hn, hlt⟩
      exact ⟨⟨i, ds, hds, hn⟩, hlt⟩
  · rw [newStart?_eq_none_iff, firstStart?_eq_none_iff]
    refine or_congr_right ?_
    constructor
    · rintro ⟨n, hn, hle⟩
      obtain ⟨i, ds, hds, hn⟩ := (hfound n).1 hn
      exact ⟨i, ds, n, hds, hn, hle⟩
    · rintro ⟨i, ds, n, hds, hn, hle⟩
      exact ⟨n, (hfound n).2 ⟨i, ds, hds, hn⟩, hle⟩

/-- False starts are passed over, and zeros in front are read. -/
example : newStart? "@@ -1 + +7, +12 @ +3,+0020,3 @@ +9 @@".toList = some 20 := by decide +kernel

end StandardsGate.HunkHeader
