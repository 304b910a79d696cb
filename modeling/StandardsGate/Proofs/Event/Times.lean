import StandardsGate.Event.Timestamp
import StandardsGate.Proofs.Diff.HunkHeader
import StandardsGate.Proofs.Text.Blank
import Mathlib.Order.Defs.LinearOrder
import Mathlib.Data.Int.Order.Basic

/-!
Reading times back.

A day has one date of the Gregorian calendar, and the date gives the day back. Years are counted
from March on in cycles of 400, so that the day that a leap year has more than others is the last
one of its year; all that is said about dates is said about a day of a year of such a cycle. With
this, a time of the years 0 to 9999 is found again by its written form, to the nanosecond, the leap
second at the end of a minute too.

Main definitions:

* `Timestamp.InCycle`, `Timestamp.dateInCycle` — the days of the years of a cycle, and their dates;
* `Timestamp.IsTime` — the times that there are;
* `Timestamp.year` — the year of a time.

Main results:

* `Timestamp.daysOfDate_dateOfDays` — **a day is found again by its date**;
* `Timestamp.isDate_dateInCycle` — which is one of the calendar;
* `Timestamp.readNumber_padded`, `Timestamp.readFraction_fractionText` — so are numbers and
  fractions of a second by their digits;
* `Timestamp.parse?_text` — **a time is read back as it was written**.
-/

namespace StandardsGate.Timestamp

/-! ### Days and their dates -/

/-- The year of a day in a cycle of 400 years. Years and days are counted from 0, a year from
March. -/
def yearOfEra (dayOfEra : Int) : Int :=
  (dayOfEra - dayOfEra / 1460 + dayOfEra / 36524 - dayOfEra / 146096) / 365

/-- The day of a cycle on which a year begins. -/
def yearStart (year : Int) : Int := 365 * year + year / 4 - year / 100

/-- A day of a cycle is a day of a century, of four years in it, and of one of these years. -/
theorem exists_parts {n : Int} (h0 : 0 ≤ n) (h1 : n < 146096) :
    ∃ c q s r : Int, 0 ≤ c ∧ c ≤ 3 ∧ 0 ≤ q ∧ q ≤ 24 ∧ 0 ≤ s ∧ s ≤ 3 ∧ 0 ≤ r ∧
      (r ≤ 364 ∨ r = 365 ∧ s = 3 ∧ q ≤ 23) ∧ n = 36524 * c + 1461 * q + 365 * s + r := by
  refine ⟨n / 36524, n % 36524 / 1461, min 3 (n % 36524 % 1461 / 365),
    n % 36524 % 1461 - 365 * min 3 (n % 36524 % 1461 / 365), ?_⟩
  omega

theorem yearOfEra_parts {c q s r : Int} (hc : 0 ≤ c ∧ c ≤ 3) (hq : 0 ≤ q ∧ q ≤ 24)
    (hs : 0 ≤ s ∧ s ≤ 3) (hr : 0 ≤ r) (hr' : r ≤ 364 ∨ r = 365 ∧ s = 3 ∧ q ≤ 23) :
    yearOfEra (36524 * c + 1461 * q + 365 * s + r) = 100 * c + 4 * q + s := by
  have hcentury : (36524 * c + 1461 * q + 365 * s + r) / 36524 = c := by omega
  have hlast : (36524 * c + 1461 * q + 365 * s + r) / 146096 = 0 := by omega
  -- one day in 1460 is left out, which is that of the leap years so far
  have hleap : (36524 * c + 1461 * q + 365 * s + r) / 1460 = 25 * c + q ∨
      (36524 * c + 1461 * q + 365 * s + r) / 1460 = 25 * c + q + 1 ∧ 1364 ≤ 365 * s + r := by omega
  rw [yearOfEra, hcentury, hlast]
  omega

/-- Which years and days of years there are in a cycle. -/
theorem yearOfEra_bounds {n : Int} (h0 : 0 ≤ n) (h1 : n < 146097) :
    0 ≤ yearOfEra n ∧ yearOfEra n ≤ 399 ∧ 0 ≤ n - yearStart (yearOfEra n) ∧
      (n - yearStart (yearOfEra n) ≤ 364 ∨ n - yearStart (yearOfEra n) = 365 ∧
        (yearOfEra n + 1) % 4 = 0 ∧
        ((yearOfEra n + 1) % 100 ≠ 0 ∨ (yearOfEra n + 1) % 400 = 0)) := by
  rcases lt_or_ge n 146096 with hlt | hge
  · obtain ⟨c, q, s, r, hc0, hc, hq0, hq, hs0, hs, hr0, hr, rfl⟩ := exists_parts h0 hlt
    rw [yearOfEra_parts ⟨hc0, hc⟩ ⟨hq0, hq⟩ ⟨hs0, hs⟩ hr0 hr, yearStart]
    have h4 : (100 * c + 4 * q + s) / 4 = 25 * c + q := by omega
    have h100 : (100 * c + 4 * q + s) / 100 = c := by omega
    rw [h4, h100]
    omega
  · obtain rfl : n = 146096 := by omega
    decide

/-- The date of a day of a year in a cycle. -/
def dateInCycle (era year day : Int) : Int × Nat × Nat :=
  let monthIndex := (5 * day + 2) / 153
  let month := if monthIndex < 10 then monthIndex + 3 else monthIndex - 9
  (year + era * 400 + (if month ≤ 2 then 1 else 0), month.toNat,
    (day - (153 * monthIndex + 2) / 5 + 1).toNat)

/-- The days of a year in a cycle: there is a 366th one only if the year ends with the February of
a leap year. -/
structure InCycle (year day : Int) : Prop where
  year_nonneg : 0 ≤ year
  year_le : year ≤ 399
  day_nonneg : 0 ≤ day
  day_le : day ≤ 364 ∨ day = 365 ∧
    (year + 1) % 4 = 0 ∧ ((year + 1) % 100 ≠ 0 ∨ (year + 1) % 400 = 0)

/-- The date of a number of days is that of a day of a cycle. -/
theorem exists_inCycle (days : Int) :
    ∃ era year day, InCycle year day ∧ days = era * 146097 + yearStart year + day - 719468 ∧
      dateOfDays days = dateInCycle era year day := by
  have hera : (days + 719468).fdiv 146097 = (days + 719468) / 146097 :=
    Int.fdiv_eq_ediv_of_nonneg _ (by decide)
  obtain ⟨hy0, hy, hd0, hd⟩ :=
    yearOfEra_bounds (n := days + 719468 - (days + 719468) / 146097 * 146097) (by omega) (by omega)
  refine ⟨(days + 719468) / 146097, _, _, ⟨hy0, hy, hd0, hd⟩, by omega, ?_⟩
  rw [← hera]
  rfl

/-- The day of a cycle is found again by its date. -/
theorem daysOfDate_dateInCycle {era year day : Int} (h : InCycle year day) :
    daysOfDate (dateInCycle era year day).1 (dateInCycle era year day).2.1
      (dateInCycle era year day).2.2 = era * 146097 + yearStart year + day - 719468 := by
  obtain ⟨hy0, hy, hd0, hd⟩ := h
  have hmonth : 0 ≤ (5 * day + 2) / 153 ∧ (5 * day + 2) / 153 ≤ 11 ∧
      0 ≤ day - (153 * ((5 * day + 2) / 153) + 2) / 5 := by omega
  unfold dateInCycle
  generalize (5 * day + 2) / 153 = m at hmonth ⊢
  obtain ⟨hm0, hm, hday⟩ := hmonth
  -- the year is counted from March again, and the month too
  obtain ⟨month, hmon, hmonth, hyear⟩ : ∃ month : Nat,
      (if m < 10 then m + 3 else m - 9) = month ∧
        ((if 2 < month then month - 3 else month + 9 : Nat) : Int) = m ∧
        (month ≤ 2 ↔ (month : Int) ≤ 2) := by
    by_cases h : m < 10
    · exact ⟨(m + 3).toNat, by rw [if_pos h]; omega, by rw [if_pos (by omega)]; omega, by omega⟩
    · exact ⟨(m - 9).toNat, by rw [if_neg h]; omega, by rw [if_neg (by omega)]; omega, by omega⟩
  have hfrom : (if month ≤ 2 then year + era * 400 + (if (month : Int) ≤ 2 then 1 else 0) - 1
      else year + era * 400 + (if (month : Int) ≤ 2 then 1 else 0)) = year + era * 400 := by
    by_cases h : month ≤ 2
    · rw [if_pos h, if_pos (hyear.1 h), Int.add_sub_cancel]
    · rw [if_neg h, if_neg (mt hyear.2 h), Int.add_zero]
  have hera : (year + era * 400).fdiv 400 = era := by
    rw [Int.fdiv_eq_ediv_of_nonneg _ (by decide)]
    omega
  dsimp only
  rw [hmon, Int.toNat_natCast]
  unfold daysOfDate
  rw [hfrom, hmonth]
  dsimp only
  rw [hera, yearStart]
  omega

/-- **A day is found again by its date.** -/
theorem daysOfDate_dateOfDays (days : Int) :
    daysOfDate (dateOfDays days).1 (dateOfDays days).2.1 (dateOfDays days).2.2 = days := by
  obtain ⟨era, year, day, hcycle, hdays, hdate⟩ := exists_inCycle days
  rw [hdate, daysOfDate_dateInCycle hcycle, hdays]

/-- Every month but February is as long as the months from March on are in the mean. -/
theorem monthLength_eq {m : Int} (h0 : 0 ≤ m) (h1 : m ≤ 10) (year : Int) :
    (monthLength year (if m < 10 then m + 3 else m - 9).toNat : Int) =
      (153 * (m + 1) + 2) / 5 - (153 * m + 2) / 5 := by
  have hcases : m = 0 ∨ m = 1 ∨ m = 2 ∨ m = 3 ∨ m = 4 ∨ m = 5 ∨ m = 6 ∨ m = 7 ∨ m = 8 ∨ m = 9 ∨
    m = 10 := by omega
  rcases hcases with rfl | rfl | rfl | rfl | rfl | rfl | rfl | rfl | rfl | rfl | rfl <;> rfl

/-- The date of a day is one of the calendar. -/
theorem isDate_dateInCycle {year day : Int} (h : InCycle year day) (era : Int) :
    1 ≤ (dateInCycle era year day).2.1 ∧ (dateInCycle era year day).2.1 ≤ 12 ∧
      1 ≤ (dateInCycle era year day).2.2 ∧
      (dateInCycle era year day).2.2 ≤
        monthLength (dateInCycle era year day).1 (dateInCycle era year day).2.1 := by
  obtain ⟨hy0, hy, hd0, hd⟩ := h
  obtain ⟨hm0, hm, hday⟩ : 0 ≤ (5 * day + 2) / 153 ∧ (5 * day + 2) / 153 ≤ 11 ∧
      0 ≤ day - (153 * ((5 * day + 2) / 153) + 2) / 5 := by omega
  unfold dateInCycle
  generalize hmonth : (5 * day + 2) / 153 = m at hm0 hm hday ⊢
  dsimp only
  refine ⟨by split <;> omega, by split <;> omega, by omega, ?_⟩
  rcases Int.lt_or_eq_of_le hm with hlt | rfl
  · have hlength := monthLength_eq hm0 (by omega)
      (year + era * 400 + if (if m < 10 then m + 3 else m - 9) ≤ 2 then 1 else 0)
    omega
  · have hlength : monthLength (year + era * 400 + 1) 2 =
        if (year + 1) % 4 = 0 ∧ ((year + 1) % 100 ≠ 0 ∨ (year + 1) % 400 = 0) then 29 else 28 := by
      have h4 : (year + era * 400 + 1) % 4 = (year + 1) % 4 := by omega
      have h100 : (year + era * 400 + 1) % 100 = (year + 1) % 100 := by omega
      have h400 : (year + era * 400 + 1) % 400 = (year + 1) % 400 := by omega
      simp [monthLength, isLeapYear, h4, h100, h400]
    change _ ≤ monthLength (year + era * 400 + 1) 2
    rw [hlength]
    split <;> omega

/-! ### Numbers -/

theorem isBlank_of_isDigit {c : Char} (h : c.isDigit = true) : Text.isBlank c = false := by
  have hrange : 48 ≤ c.toNat ∧ c.toNat ≤ 57 := Char.isDigit_iff_toNat.1 h
  simp only [Text.isBlank, Bool.or_eq_false_iff, Bool.and_eq_false_iff, decide_eq_false_iff_not,
    beq_eq_false_iff_ne, ne_eq]
  omega

/-- Each zero behind the digits of a number makes it ten times as large. -/
theorem foldl_replicate_zero (k m : Nat) :
    (List.replicate k '0').foldl (fun n d => n * 10 + (d.toNat - '0'.toNat)) m = m * Nat.pow 10 k := by
  induction k generalizing m with
  | zero => exact (Nat.mul_one m).symm
  | succ k ih =>
      rw [List.replicate_succ, List.foldl_cons, ih]
      change (m * 10 + 0) * Nat.pow 10 k = m * (Nat.pow 10 k * 10)
      rw [Nat.add_zero, Nat.mul_assoc, Nat.mul_comm 10]

/-- The digits of a number with zeros in front of it are as many as they should be. -/
theorem padded_spec {width n : Nat} (hwidth : 0 < width) (h : n < Nat.pow 10 width) :
    (padded width n).length = width ∧ (∀ c ∈ padded width n, c.isDigit = true) ∧
      Text.decimalValue (padded width n) = n := by
  have hdigits : (toString n).toList = Nat.toDigits 10 n := by simp
  have hlength := (Nat.length_toDigits_le_iff (b := 10) (by decide) hwidth).2 h
  rw [padded, hdigits]
  refine ⟨?_, ?_, ?_⟩
  · simp only [List.length_append, List.length_replicate]
    omega
  · intro c hc
    rcases List.mem_append.1 hc with hc | hc
    · rw [(List.mem_replicate.1 hc).2]
      rfl
    · exact HunkHeader.isDigit_of_mem_toDigits hc
  · rw [Text.decimalValue, List.foldl_append, foldl_replicate_zero, Nat.zero_mul]
    exact HunkHeader.decimalValue_toDigits n

/-- A number is read back from as many digits as can be read. -/
theorem readNumber_padded {width n : Nat} (hwidth : 0 < width) (h : n < Nat.pow 10 width)
    (rest : List Char) : readNumber width (padded width n ++ rest) = some (n, rest) := by
  obtain ⟨hlength, hdigits, hvalue⟩ := padded_spec hwidth h
  generalize padded width n = ds at hlength hdigits hvalue ⊢
  subst hlength
  have hne : ds ≠ [] := List.ne_nil_of_length_pos hwidth
  have htrim : Text.trimStart (ds ++ rest) = ds ++ rest := by
    refine Text.trimStart_eq_self fun c hc => ?_
    rw [List.head?_append_of_ne_nil _ hne] at hc
    exact isBlank_of_isDigit (hdigits c (List.mem_of_mem_head? hc))
  have hall : ds.takeWhile Char.isDigit = ds := by
    have happend : (ds ++ []).takeWhile Char.isDigit = ds ++ [].takeWhile Char.isDigit :=
      List.takeWhile_append_of_pos hdigits
    simpa using happend
  unfold readNumber
  dsimp only
  rw [htrim, List.take_left, hall, List.drop_left, hvalue, if_neg (by simpa using hne)]

theorem readYear_padded {n : Nat} (h : n < 10000) (rest : List Char) :
    readYear (padded 4 n ++ rest) = some ((n : Int), rest) := by
  obtain ⟨hlength, hdigits, -⟩ := padded_spec (show 0 < 4 by decide) h
  have hread := readNumber_padded (show 0 < 4 by decide) h rest
  generalize padded 4 n = ds at hlength hdigits hread ⊢
  cases ds with
  | nil => cases hlength
  | cons d ds =>
      have hd := hdigits d List.mem_cons_self
      have htrim : Text.trimStart (d :: ds ++ rest) = d :: ds ++ rest :=
        Text.trimStart_eq_self fun c hc => isBlank_of_isDigit (Option.some.inj hc ▸ hd)
      unfold readYear
      rw [htrim]
      split
      · rename_i heq
        cases heq
        cases hd
      · rename_i heq
        cases heq
        cases hd
      · rw [hread]
        rfl

theorem readSign_cons {c : Char} (h : Text.isBlank c = false) (rest : List Char) :
    readSign c (c :: rest) = some rest := by
  have htrim : Text.trimStart (c :: rest) = c :: rest := by
    refine Text.trimStart_eq_self fun d hd => ?_
    obtain rfl : c = d := Option.some.inj hd
    exact h
  rw [readSign, htrim]
  exact if_pos rfl

/-- A fraction is read back to the nanosecond, however many digits it has. -/
theorem readFraction_fractionText {nanos : Nat} (h : nanos < 1000000000) {rest : List Char}
    (hrest : ∀ c ∈ rest.head?, c.isDigit = false ∧ c ≠ '.') :
    readFraction (fractionText nanos ++ rest) = some (nanos, rest) := by
  -- so many digits behind the point, and zeros for those that are left out
  have hread : ∀ width k : Nat, 0 < width → width ≤ 9 → k < Nat.pow 10 width →
      readFraction ('.' :: (padded width k ++ rest)) = some (k * Nat.pow 10 (9 - width), rest) := by
    intro width k hpos hle hk
    obtain ⟨hlength, hdigits, hvalue⟩ := padded_spec hpos hk
    generalize padded width k = ds at hlength hdigits hvalue ⊢
    subst hlength
    have htake : (ds ++ rest).takeWhile Char.isDigit = ds := by
      rw [List.takeWhile_append_of_pos hdigits]
      cases rest with
      | nil => simp
      | cons c rest => simp [(hrest c rfl).1]
    rw [readFraction, htake]
    dsimp only
    rw [if_neg (by simpa using List.ne_nil_of_length_pos hpos), List.take_of_length_le hle,
      List.drop_left, Text.decimalValue, List.foldl_append, foldl_replicate_zero]
    rw [← hvalue]
    rfl
  unfold fractionText
  split
  · subst_vars
    cases rest with
    | nil => rfl
    | cons c rest =>
        rw [List.nil_append, readFraction]
        rintro _ ⟨⟩
        exact (hrest _ rfl).2 rfl
  split
  · rename_i hmod
    have hback : nanos / 1000000 * Nat.pow 10 (9 - 3) = nanos :=
      show nanos / 1000000 * 1000000 = nanos by omega
    rw [List.cons_append, hread 3 _ (by decide) (by decide)
      (show nanos / 1000000 < 1000 by omega), hback]
  split
  · have hback : nanos / 1000 * Nat.pow 10 (9 - 6) = nanos :=
      show nanos / 1000 * 1000 = nanos by omega
    rw [List.cons_append, hread 6 _ (by decide) (by decide)
      (show nanos / 1000 < 1000000 by omega), hback]
  · have hback : nanos * Nat.pow 10 (9 - 9) = nanos := Nat.mul_one nanos
    rw [List.cons_append, hread 9 _ (by decide) (by decide) h, hback]

/-! ### Times -/

/-- The year of a time. -/
def year (t : Timestamp) : Int := (dateOfDays (t.seconds.fdiv 86400)).1

/-- Whether there is a time with these nanoseconds: they exceed one second only in the last second
of a minute. -/
def IsTime (t : Timestamp) : Prop :=
  t.nanos < 1000000000 ∨ t.nanos < 2000000000 ∧ t.seconds % 60 = 59

instance decidableIsTime (t : Timestamp) : Decidable t.IsTime := inferInstanceAs (Decidable (_ ∨ _))

theorem bind_of_eq_some {α β : Type} {o : Option α} {a : α} (h : o = some a) (f : α → Option β) :
    o >>= f = f a := by
  rw [h]
  rfl

/-- A date and a time of the day are read from the digits of their parts. -/
theorem parseChars_padded {year month day hour minute second nanos : Nat} (hyear : year < 10000)
    (hmonth : 1 ≤ month ∧ month ≤ 12) (hday : 1 ≤ day ∧ day ≤ monthLength year month)
    (hhour : hour ≤ 23) (hminute : minute ≤ 59) (hsecond : second ≤ 60) (hnanos : nanos < 1000000000) :
    parseChars (padded 4 year ++ '-' :: padded 2 month ++ '-' :: padded 2 day ++ 'T' ::
        padded 2 hour ++ ':' :: padded 2 minute ++ ':' :: padded 2 second ++ fractionText nanos ++
        ['Z']) =
      some ⟨daysOfDate year month day * 86400 +
          (hour * 3600 + minute * 60 + if second = 60 then 59 else second : Nat),
        if second = 60 then nanos + 1000000000 else nanos⟩ := by
  have hmonthLength : monthLength year month ≤ 31 := by
    unfold monthLength
    split
    · split <;> omega
    · split <;> omega
  have hfraction : readFraction (fractionText nanos ++ ['Z']) = some (nanos, ['Z']) :=
    readFraction_fractionText hnanos fun c hc => by cases hc; decide
  simp only [List.append_assoc, List.cons_append]
  have hdash : Text.isBlank '-' = false := by decide
  have hcolon : Text.isBlank ':' = false := by decide
  have hnumber : ∀ {n : Nat}, n < 100 → ∀ rest,
      readNumber 2 (padded 2 n ++ rest) = some (n, rest) :=
    fun hn rest => readNumber_padded (by decide) hn rest
  have hoffset : readOffset (Text.trimStart ['Z']) = some (0, []) := by decide
  have hend : Text.trimStart [] = [] := rfl
  have hyears : firstYear ≤ (year : Int) ∧ (year : Int) ≤ lastYear := by
    unfold firstYear lastYear
    omega
  unfold parseChars
  refine (bind_of_eq_some (readYear_padded hyear _) _).trans ?_
  refine (bind_of_eq_some (readSign_cons hdash _) _).trans ?_
  refine (bind_of_eq_some (hnumber (show month < 100 by omega) _) _).trans ?_
  refine (bind_of_eq_some (readSign_cons hdash _) _).trans ?_
  refine (bind_of_eq_some (hnumber (show day < 100 by omega) _) _).trans ?_
  refine (bind_of_eq_some rfl _).trans ?_
  refine (bind_of_eq_some (hnumber (show hour < 100 by omega) _) _).trans ?_
  refine (bind_of_eq_some (readSign_cons hcolon _) _).trans ?_
  refine (bind_of_eq_some (hnumber (show minute < 100 by omega) _) _).trans ?_
  refine (bind_of_eq_some (readSign_cons hcolon _) _).trans ?_
  refine (bind_of_eq_some (hnumber (show second < 100 by omega) _) _).trans ?_
  refine (bind_of_eq_some hfraction _).trans ?_
  refine (bind_of_eq_some hoffset _).trans ?_
  dsimp only
  simp [hend, hyears, hmonth, hday, hhour, hminute, hsecond]

/-- **A time is read back as it was written.** -/
theorem parse?_text {t : Timestamp} (ht : t.IsTime) (h0 : 0 ≤ t.year) (h1 : t.year ≤ 9999) :
    parse? t.text = some t := by
  obtain ⟨seconds, nanos⟩ := t
  have hdiv : seconds.fdiv 86400 = seconds / 86400 := Int.fdiv_eq_ediv_of_nonneg _ (by decide)
  obtain ⟨era, y, d, hcycle, -, hdate⟩ := exists_inCycle (seconds / 86400)
  have hcalendar := isDate_dateInCycle hcycle era
  have hback := daysOfDate_dateOfDays (seconds / 86400)
  rw [← hdate] at hcalendar
  rw [year, hdiv] at h0 h1
  unfold text
  dsimp only
  rw [hdiv]
  generalize dateOfDays (seconds / 86400) = date at hcalendar hback h0 h1 ⊢
  obtain ⟨year, month, day⟩ := date
  obtain ⟨year, rfl⟩ := Int.eq_ofNat_of_zero_le h0
  obtain ⟨hmonth, hmonth', hday, hlength⟩ := hcalendar
  dsimp only at hmonth hmonth' hday hlength hback h1 ⊢
  have hyear : yearText year = padded 4 year := by
    rw [yearText, if_pos (by simp; omega)]
    rfl
  have hrest : ((seconds - seconds / 86400 * 86400).toNat : Int) = seconds % 86400 := by omega
  generalize (seconds - seconds / 86400 * 86400).toNat = rest at hrest ⊢
  rw [parse?, String.toList_ofList, hyear]
  rcases Nat.lt_or_ge nanos 1000000000 with hplain | hleap
  · rw [if_neg (Nat.not_le.2 hplain), if_neg (Nat.not_le.2 hplain),
      parseChars_padded (by omega) ⟨hmonth, hmonth'⟩ ⟨hday, hlength⟩ (by omega) (by omega)
        (by omega) hplain, if_neg (by omega), if_neg (by omega), hback]
    congr 2
    omega
  · -- a leap second is the 60th one of its minute
    obtain ⟨hshort, hminute⟩ : nanos < 2000000000 ∧ seconds % 60 = 59 :=
      ht.resolve_left (Nat.not_lt.2 hleap)
    have hlast : rest % 60 = 59 := by omega
    rw [if_pos hleap, if_pos hleap, hlast,
      parseChars_padded (by omega) ⟨hmonth, hmonth'⟩ ⟨hday, hlength⟩ (by omega) (by omega)
        (by decide) (by omega), if_pos rfl, if_pos rfl, hback]
    congr 2
    · omega
    · omega

end StandardsGate.Timestamp
