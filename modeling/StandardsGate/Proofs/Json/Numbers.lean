import StandardsGate.Json.Reader
import StandardsGate.Json.Writer
import StandardsGate.Proofs.Diff.HunkHeader
import StandardsGate.Proofs.Host.Action

/-!
Numbers that are written and read again.

A whole number of 64 bits is read as it was written. What is written of a double has the form of a
number too, but only that: reading it gives some number, or fails.

Main definitions:

* `Json.IsWholeNumber` — the whole numbers that JSON values hold exactly;
* `Json.HasNumberForm` — digits, then perhaps a fraction, then perhaps an exponent.

Main results:

* `Json.readNumber_digits` — **a whole number is read as it was written**;
* `Json.rest_of_readNumber` — reading a number stops at its end;
* `Json.isNumber_of_readNumber` — what a number that is read can be.
-/

namespace StandardsGate.Json

/-- Whether a whole number has 64 bits, with or without a sign. -/
def IsWholeNumber (n : Int) : Prop := -(UInt64.size / 2 : Nat) ≤ n ∧ n ≤ maxUnsigned

/-- Whether a text is what can stand behind a value: nothing, a comma or a new line. -/
def EndsValue (rest : List Char) : Prop := ∀ c ∈ rest.head?, c = ',' ∨ c = '\n'

/-- Whether a text is what can stand behind a number: it does not go on with a digit, a point, an
exponent or a sign. -/
def EndsNumber (rest : List Char) : Prop :=
  ∀ c ∈ rest.head?, c.isDigit = false ∧ c ≠ '.' ∧ c ≠ 'e' ∧ c ≠ 'E' ∧ c ≠ '+' ∧ c ≠ '-'

/-- Whether a text has digits only. -/
def AllDigits (ds : List Char) : Prop := ∀ c ∈ ds, c.isDigit = true

/-- Whether a text has the form of a number without its sign: digits, perhaps a fraction, and perhaps
an exponent. There may be too few digits. -/
structure HasNumberForm (cs : List Char) : Prop where
  parts : ∃ whole fraction exponent, cs = whole ++ (fraction ++ exponent) ∧ AllDigits whole ∧
    (fraction = [] ∨ ∃ ds, fraction = '.' :: ds ∧ AllDigits ds) ∧
    (exponent = [] ∨ ∃ sign ds, exponent = 'e' :: (sign ++ ds) ∧ AllDigits ds ∧
      (sign = [] ∨ sign = ['+'] ∨ sign = ['-']))

/-- The values of numbers. -/
def IsNumber (v : Json) : Prop := (∃ n, v = .int n ∧ IsWholeNumber n) ∨ ∃ x, v = .float x

/-! ### Digits -/

theorem takeWhile_digits {ds rest : List Char} (h : AllDigits ds)
    (hrest : ∀ c ∈ rest.head?, c.isDigit = false) : (ds ++ rest).takeWhile Char.isDigit = ds := by
  rw [List.takeWhile_append_of_pos h]
  cases rest with
  | nil => exact List.append_nil ds
  | cons c rest =>
      rw [List.takeWhile_cons_of_neg (by simp [hrest c rfl]), List.append_nil]

theorem head?_toDigits_ne_zero {n : Nat} (h : 0 < n) : (Nat.toDigits 10 n).head? ≠ some '0' := by
  induction n using Nat.strongRecOn with
  | ind n ih =>
      rcases Nat.lt_or_ge n 10 with hsmall | hlarge
      · have hdigit : ∀ d < 10, 0 < d → [d.digitChar].head? ≠ some '0' := by decide
        rw [Nat.toDigits_of_lt_base hsmall]
        exact hdigit n hsmall h
      · rw [Nat.toDigits_of_base_le (by decide) hlarge,
          List.head?_append_of_ne_nil _ Nat.toDigits_ne_nil]
        exact ih (n / 10) (Nat.div_lt_self h (by decide)) (Nat.div_pos hlarge (by decide))

/-- What is printed of a whole number does not begin with a zero, unless it is one. -/
theorem toDigits_shape (n : Nat) :
    Nat.toDigits 10 n ≠ [] ∧ ∀ d ds, Nat.toDigits 10 n ≠ '0' :: d :: ds := by
  refine ⟨Nat.toDigits_ne_nil, fun d ds h => ?_⟩
  rcases Nat.eq_zero_or_pos n with rfl | hpos
  · cases h
  · exact head?_toDigits_ne_zero hpos (by rw [h]; rfl)

theorem EndsValue.endsNumber {rest : List Char} (h : EndsValue rest) : EndsNumber rest := by
  intro c hc
  rcases h c hc with rfl | rfl <;> decide

/-! ### The parts of a number -/

theorem readFraction_nil {cs : List Char} (h : ∀ c ∈ cs.head?, c ≠ '.') :
    readFraction cs = .ok (none, cs) := by
  cases cs with
  | nil => rfl
  | cons c cs =>
      rw [readFraction.eq_def]
      split
      · rename_i heq
        exact absurd (List.cons.inj heq).1 (h c rfl)
      · rfl

theorem readExponent_nil {cs : List Char} (h : ∀ c ∈ cs.head?, c ≠ 'e' ∧ c ≠ 'E') :
    readExponent cs = .ok (none, cs) := by
  cases cs with
  | nil => rfl
  | cons c cs =>
      rw [readExponent.eq_def]
      split
      · rename_i heq
        exact absurd (List.cons.inj heq).1 (h c rfl).1
      · rename_i heq
        exact absurd (List.cons.inj heq).1 (h c rfl).2
      · rfl

theorem rest_of_readFraction {fraction rest rest' : List Char} {f : Option (List Char)}
    (hfraction : fraction = [] ∨ ∃ ds, fraction = '.' :: ds ∧ AllDigits ds)
    (hrest : ∀ c ∈ rest.head?, c.isDigit = false ∧ c ≠ '.')
    (h : readFraction (fraction ++ rest) = .ok (f, rest')) : rest' = rest := by
  rcases hfraction with rfl | ⟨ds, rfl, hds⟩
  · rw [List.nil_append, readFraction_nil fun c hc => (hrest c hc).2] at h
    cases h
    rfl
  · rw [List.cons_append, readFraction, takeWhile_digits hds fun c hc => (hrest c hc).1,
      List.drop_left] at h
    split at h <;> cases h
    rfl

/-- What is left of an exponent when its sign is known. -/
def exponentOf (negative : Bool) (cs : List Char) : Except Fault (Option Int × List Char) :=
  let ds := cs.takeWhile Char.isDigit
  if ds.isEmpty then .error .badNumber
  else .ok (some (if negative then -(Text.decimalValue ds : Int) else Text.decimalValue ds),
    cs.drop ds.length)

theorem readExponent_plus (cs : List Char) :
    readExponent ('e' :: '+' :: cs) = exponentOf false cs := rfl

theorem readExponent_minus (cs : List Char) :
    readExponent ('e' :: '-' :: cs) = exponentOf true cs := rfl

theorem readExponent_unsigned {cs : List Char} (h : ∀ c ∈ cs.head?, c ≠ '+' ∧ c ≠ '-') :
    readExponent ('e' :: cs) = exponentOf false cs := by
  cases cs with
  | nil => rfl
  | cons c cs =>
      obtain ⟨hplus, hminus⟩ := h c rfl
      unfold readExponent
      split
      · rename_i heq
        cases heq
        split
        rename_i hsign
        split at hsign <;> rename_i hc
        · exact absurd (List.cons.inj hc).1 hplus
        · exact absurd (List.cons.inj hc).1 hminus
        · cases hsign
          rfl
      · rename_i heq
        cases heq
      · rename_i hno _
        exact (hno _ rfl).elim

theorem rest_of_exponentOf {negative : Bool} {ds rest rest' : List Char} {e : Option Int}
    (hds : AllDigits ds) (hrest : EndsNumber rest)
    (h : exponentOf negative (ds ++ rest) = .ok (e, rest')) : rest' = rest := by
  unfold exponentOf at h
  dsimp only at h
  rw [takeWhile_digits hds fun c hc => (hrest c hc).1, List.drop_left] at h
  split at h <;> cases h
  rfl

theorem rest_of_readExponent {exponent rest rest' : List Char} {e : Option Int}
    (hexponent : exponent = [] ∨ ∃ sign ds, exponent = 'e' :: (sign ++ ds) ∧ AllDigits ds ∧
      (sign = [] ∨ sign = ['+'] ∨ sign = ['-']))
    (hrest : EndsNumber rest) (h : readExponent (exponent ++ rest) = .ok (e, rest')) :
    rest' = rest := by
  rcases hexponent with rfl | ⟨sign, ds, rfl, hds, rfl | rfl | rfl⟩
  · rw [List.nil_append, readExponent_nil fun c hc =>
      ⟨(hrest c hc).2.2.1, (hrest c hc).2.2.2.1⟩] at h
    cases h
    rfl
  · have hhead : ∀ c ∈ (ds ++ rest).head?, c ≠ '+' ∧ c ≠ '-' := by
      intro c hc
      cases ds with
      | nil => exact (hrest c hc).2.2.2.2
      | cons d ds =>
          obtain rfl : d = c := Option.some.inj hc
          have hdigit := hds d List.mem_cons_self
          constructor <;> rintro rfl <;> cases hdigit
    rw [List.nil_append, List.cons_append, readExponent_unsigned hhead] at h
    exact rest_of_exponentOf hds hrest h
  · exact rest_of_exponentOf hds hrest ((readExponent_plus _).symm.trans h)
  · exact rest_of_exponentOf hds hrest ((readExponent_minus _).symm.trans h)

theorem floatOf_isFloat {negative : Bool} {whole fraction : List Char} {exponent : Int} {v : Json}
    (h : floatOf negative whole fraction exponent = .ok v) : ∃ x, v = .float x := by
  unfold floatOf at h
  rcases significand 0 whole with ⟨n, dropped⟩
  rcases significand n fraction with ⟨n, left⟩
  obtain ⟨x, -, hx⟩ := exists_of_bind_eq_ok h
  cases hx
  exact ⟨_, rfl⟩

theorem isNumber_of_wholeOf {negative : Bool} {ds : List Char} {v : Json}
    (h : wholeOf negative ds = .ok v) : IsNumber v := by
  unfold wholeOf at h
  dsimp only at h
  split at h
  · split at h
    · rename_i hrange
      simp only [Bool.and_eq_true, decide_eq_true_eq] at hrange
      cases h
      refine .inl ⟨_, rfl, ?_, ?_⟩
      · exact Int.neg_le_neg (Int.ofNat_le.2 hrange.2)
      · have : (0 : Int) ≤ maxUnsigned := Int.natCast_nonneg _
        omega
    · exact .inr (floatOf_isFloat h)
  · split at h
    · rename_i hrange
      cases h
      refine .inl ⟨_, rfl, ?_, Int.ofNat_le.2 hrange⟩
      have : (0 : Int) ≤ (UInt64.size / 2 : Nat) := Int.natCast_nonneg _
      omega
    · exact .inr (floatOf_isFloat h)

/-- What a number that is read can be. -/
theorem isNumber_of_readNumber {negative : Bool} {cs rest : List Char} {v : Json}
    (h : readNumber negative cs = .ok (v, rest)) : IsNumber v := by
  unfold readNumber at h
  dsimp only at h
  split at h
  · cases h
  · cases h
  · obtain ⟨⟨fraction, cs'⟩, -, h⟩ := exists_of_bind_eq_ok h
    obtain ⟨⟨exponent, cs''⟩, -, h⟩ := exists_of_bind_eq_ok h
    dsimp only at h
    split at h
    · obtain ⟨v', hv, h⟩ := exists_of_bind_eq_ok h
      cases h
      exact isNumber_of_wholeOf hv
    · obtain ⟨v', hv, h⟩ := exists_of_bind_eq_ok h
      cases h
      exact .inr (floatOf_isFloat hv)

/-- **A whole number is read as it was written.** -/
theorem readNumber_digits {rest : List Char} (hrest : EndsNumber rest) (negative : Bool) (n : Nat) :
    readNumber negative (Nat.toDigits 10 n ++ rest) =
      (wholeOf negative (Nat.toDigits 10 n)).map (·, rest) := by
  obtain ⟨hne, hzero⟩ := toDigits_shape n
  have hdigits : AllDigits (Nat.toDigits 10 n) := fun c => HunkHeader.isDigit_of_mem_toDigits
  have htake := takeWhile_digits hdigits fun c hc => (hrest c hc).1
  have hdrop : (Nat.toDigits 10 n ++ rest).drop (Nat.toDigits 10 n).length = rest :=
    List.drop_left
  unfold readNumber
  dsimp only
  rw [htake, hdrop]
  split
  · rename_i heq
    exact absurd heq hne
  · rename_i heq
    exact absurd heq (hzero _ _)
  · rw [readFraction_nil fun c hc => (hrest c hc).2.1]
    change (readExponent rest >>= _) = _
    rw [readExponent_nil fun c hc => ⟨(hrest c hc).2.2.1, (hrest c hc).2.2.2.1⟩]
    cases wholeOf negative (Nat.toDigits 10 n) <;> rfl

/-- Reading a number stops at its end. -/
theorem rest_of_readNumber {cs rest rest' : List Char} (hform : HasNumberForm cs)
    (hrest : EndsNumber rest) {negative : Bool} {v : Json}
    (h : readNumber negative (cs ++ rest) = .ok (v, rest')) : rest' = rest := by
  obtain ⟨whole, fraction, exponent, rfl, hwhole, hfraction, hexponent⟩ := hform.parts
  have hexponentHead : ∀ c ∈ (exponent ++ rest).head?, c.isDigit = false ∧ c ≠ '.' := by
    intro c hc
    rcases hexponent with rfl | ⟨sign, ds, rfl, -⟩
    · exact ⟨(hrest c hc).1, (hrest c hc).2.1⟩
    · cases hc
      exact ⟨by decide, by decide⟩
  have hfractionHead : ∀ c ∈ (fraction ++ (exponent ++ rest)).head?, c.isDigit = false := by
    intro c hc
    rcases hfraction with rfl | ⟨ds, rfl, -⟩
    · exact (hexponentHead c hc).1
    · cases hc
      decide
  have htake := takeWhile_digits hwhole hfractionHead
  unfold readNumber at h
  dsimp only at h
  rw [List.append_assoc, List.append_assoc, htake, List.drop_left] at h
  split at h
  · cases h
  · cases h
  · obtain ⟨⟨f, cs'⟩, hf, h⟩ := exists_of_bind_eq_ok h
    obtain rfl := rest_of_readFraction hfraction hexponentHead hf
    obtain ⟨⟨e, cs''⟩, he, h⟩ := exists_of_bind_eq_ok h
    obtain rfl := rest_of_readExponent hexponent hrest he
    dsimp only at h
    split at h
    all_goals
      obtain ⟨v', -, h⟩ := exists_of_bind_eq_ok h
      cases h
      rfl

/-! ### What is written of a double -/

theorem allDigits_significant (n : Nat) : AllDigits (Double.significant n) := by
  intro c hc
  have hmem : c ∈ Nat.toDigits 10 n :=
    List.mem_reverse.1 ((List.dropWhile_sublist _).subset (List.mem_reverse.1 hc))
  exact HunkHeader.isDigit_of_mem_toDigits hmem

theorem allDigits_ite {c : Prop} [Decidable c] {d d' : Double.Decimal} (hd : AllDigits d.digits)
    (hd' : AllDigits d'.digits) : AllDigits (if c then d else d').digits := by
  split
  · exact hd
  · exact hd'

theorem allDigits_shortest (m : Nat) (e : Int) : AllDigits (Double.shortest m e).digits := by
  have hfrom : ∀ (low : Nat) (point : Int) (fuel n : Nat),
      AllDigits (Double.shortestFrom m e low point fuel n).digits := by
    intro low point fuel
    induction fuel with
    | zero => exact fun n c hc => absurd hc List.not_mem_nil
    | succ fuel ih =>
        intro n
        rw [Double.shortestFrom]
        -- whichever candidate is taken, it is some number's digits
        refine allDigits_ite (allDigits_ite ?_ (allDigits_ite ?_ (allDigits_ite ?_ ?_)))
          (allDigits_ite ?_ (allDigits_ite ?_ (ih _)))
        all_goals exact allDigits_significant _
  unfold Double.shortest
  split
  · intro c hc
    obtain rfl := List.mem_singleton.1 hc
    decide
  · exact hfrom _ _ _ _

theorem allDigits_zeros (n : Nat) : AllDigits (Double.zeros n) := by
  intro c hc
  obtain ⟨-, rfl⟩ := List.mem_replicate.1 hc
  decide

theorem AllDigits.append {ds es : List Char} (hds : AllDigits ds) (hes : AllDigits es) :
    AllDigits (ds ++ es) := by
  intro c hc
  rcases List.mem_append.1 hc with hc | hc
  · exact hds c hc
  · exact hes c hc

theorem hasNumberForm_positional {d : Double.Decimal} (hd : AllDigits d.digits) :
    HasNumberForm (Double.positional d ".0".toList) := by
  have hzero : AllDigits ['0'] := by
    intro c hc
    obtain rfl := List.mem_singleton.1 hc
    decide
  unfold Double.positional
  dsimp only
  split
  · exact ⟨['0'], '.' :: (Double.zeros (-d.point).toNat ++ d.digits), [], by simp, hzero,
      .inr ⟨_, rfl, (allDigits_zeros _).append hd⟩, .inl rfl⟩
  split
  · exact ⟨d.digits ++ Double.zeros (d.point - d.digits.length).toNat, ['.', '0'], [], by simp,
      hd.append (allDigits_zeros _), .inr ⟨['0'], rfl, hzero⟩, .inl rfl⟩
  · exact ⟨d.digits.take d.point.toNat, '.' :: d.digits.drop d.point.toNat, [], by simp,
      fun c hc => hd c (List.mem_of_mem_take hc),
      .inr ⟨_, rfl, fun c hc => hd c (List.mem_of_mem_drop hc)⟩, .inl rfl⟩

theorem hasNumberForm_scientific {d : Double.Decimal} (hd : AllDigits d.digits) :
    HasNumberForm (Double.scientific true d) := by
  -- the exponent: a sign and digits
  have hexponent : ∃ sign ds, (if true && 0 < d.point - 1 then ['+'] else []) ++
      (toString (d.point - 1)).toList = sign ++ ds ∧ AllDigits ds ∧
        (sign = [] ∨ sign = ['+'] ∨ sign = ['-']) := by
    cases hn : d.point - 1 with
    | ofNat n =>
        refine ⟨if true && 0 < Int.ofNat n then ['+'] else [], Nat.toDigits 10 n, ?_,
          fun c => HunkHeader.isDigit_of_mem_toDigits, ?_⟩
        · have : (toString (Int.ofNat n)).toList = Nat.toDigits 10 n := by
            simp [toString, Int.repr]
          rw [this]
        · split
          · exact .inr (.inl rfl)
          · exact .inl rfl
    | negSucc n =>
        refine ⟨['-'], Nat.toDigits 10 (n + 1), ?_, fun c => HunkHeader.isDigit_of_mem_toDigits,
          .inr (.inr rfl)⟩
        have : (toString (Int.negSucc n)).toList = '-' :: Nat.toDigits 10 (n + 1) := by
          simp [toString, Int.repr]
        rw [this]
        simp
  obtain ⟨sign, ds, hsign, hds, hform⟩ := hexponent
  unfold Double.scientific
  dsimp only
  rw [hsign]
  split
  · exact ⟨[], [], [], rfl, fun c hc => absurd hc List.not_mem_nil, .inl rfl, .inl rfl⟩
  · rename_i c heq
    rw [heq] at hd
    exact ⟨[c], [], 'e' :: (sign ++ ds), rfl, hd, .inl rfl, .inr ⟨sign, ds, rfl, hds, hform⟩⟩
  · rename_i c rest _ heq
    rw [heq] at hd
    refine ⟨[c], '.' :: rest, 'e' :: (sign ++ ds), rfl, ?_, .inr ⟨rest, rfl, ?_⟩,
      .inr ⟨sign, ds, rfl, hds, hform⟩⟩
    · intro c' hc'
      obtain rfl := List.mem_singleton.1 hc'
      exact hd _ List.mem_cons_self
    · exact fun c' hc' => hd c' (List.mem_cons_of_mem _ hc')

/-- What is written of a double has the form of a number, or is the word for nothing. -/
theorem floatText_form (x : Double) :
    floatText x = "null".toList ∨ HasNumberForm (floatText x) ∨
      ∃ cs, floatText x = '-' :: cs ∧ HasNumberForm cs := by
  have hzero : HasNumberForm "0.0".toList := by
    have hdigit : AllDigits ['0'] := by
      intro c hc
      obtain rfl := List.mem_singleton.1 hc
      decide
    exact ⟨['0'], ['.', '0'], [], rfl, hdigit, .inr ⟨['0'], rfl, hdigit⟩, .inl rfl⟩
  unfold floatText
  cases x with
  | infinity | nan => exact .inl rfl
  | finite negative m e =>
      refine .inr ?_
      have hbody : HasNumberForm (if m = 0 then "0.0".toList
          else if layout.low < (Double.shortest m e).point && (Double.shortest m e).point ≤ 16 then
            Double.positional (Double.shortest m e) ".0".toList
          else Double.scientific layout.plus (Double.shortest m e)) := by
        split_ifs
        · exact hzero
        · exact hasNumberForm_positional (allDigits_shortest m e)
        · exact hasNumberForm_scientific (allDigits_shortest m e)
      have hfinite : (Double.finite negative m e).isFinite = true := rfl
      rw [hfinite, if_pos rfl, Double.toText]
      rw [Double.signed, String.toList_ofList]
      cases negative with
      | false => exact .inl hbody
      | true => exact .inr ⟨_, rfl, hbody⟩

end StandardsGate.Json
