import StandardsGate.Proofs.Json.RoundTrip
import Mathlib.Data.List.TakeWhile

/-!
The grammar of JSON: strings and numbers.

The grammar says which texts spell a string or a number, without saying how one is read. A string
may be spelled in many ways, with its characters escaped; it spells characters, so half a surrogate
pair is none. A number spells one that is kept, so one that is too large for a double is none.

Main definitions:

* `Json.Letters` — the spellings of strings;
* `Json.Numeral` — the spellings of numbers, with `Json.WholeDigits`, `Json.Fraction` and
  `Json.Exponent` for their parts.

Main results:

* `Json.exists_letters_of_readString`, `Json.Letters.readString` — strings are read by the grammar;
* `Json.exists_numeral_of_readNumber`, `Json.Numeral.readNumber` — and so are numbers.
-/

namespace StandardsGate.Json

/-! ### Strings -/

/-- What stands between the quotes of a string, and the characters that it spells. -/
inductive Letters : List Char → List Char → Prop
  | nil : Letters [] []
  | plain {c : Char} {cs letters : List Char} (hquote : c ≠ '"') (hback : c ≠ '\\')
      (hcontrol : ¬ c.toNat < 0x20) (h : Letters cs letters) : Letters (c :: cs) (c :: letters)
  | short {c e : Char} {cs letters : List Char} (he : shortEscape? c = some e)
      (h : Letters cs letters) : Letters ('\\' :: c :: cs) (e :: letters)
  /-- The code of a character that is no surrogate. -/
  | code {a b c d : Char} {n : Nat} {cs letters : List Char} (hn : hex4? a b c d = some n)
      (hlow : ¬ (0xDC00 ≤ n ∧ n ≤ 0xDFFF)) (hhigh : ¬ (0xD800 ≤ n ∧ n ≤ 0xDBFF))
      (h : Letters cs letters) :
      Letters ('\\' :: 'u' :: a :: b :: c :: d :: cs) (charOf n :: letters)
  /-- The codes of two surrogates. -/
  | pair {a b c d e f g i : Char} {n m : Nat} {cs letters : List Char}
      (hn : hex4? a b c d = some n) (hhigh : 0xD800 ≤ n ∧ n ≤ 0xDBFF)
      (hm : hex4? e f g i = some m) (hlow : 0xDC00 ≤ m ∧ m ≤ 0xDFFF) (h : Letters cs letters) :
      Letters ('\\' :: 'u' :: a :: b :: c :: d :: '\\' :: 'u' :: e :: f :: g :: i :: cs)
        (charOf (0x10000 + (n - 0xD800) * 0x400 + (m - 0xDC00)) :: letters)

/-- What is read of a string is what it spells. -/
theorem Letters.readString {cs letters : List Char} (h : Letters cs letters)
    (acc rest : List Char) :
    readString acc (cs ++ '"' :: rest) = .ok (String.ofList (acc.reverse ++ letters), rest) := by
  induction h generalizing acc with
  | nil =>
      rw [List.nil_append, Json.readString, List.append_nil]
  | @plain c cs letters hquote hback hcontrol h ih =>
      rw [List.cons_append, readString_of_plain hquote hback hcontrol, ih]
      simp
  | @short c e cs letters he h ih =>
      have hu : c ≠ 'u' := by
        rintro rfl
        cases he
      rw [List.cons_append, List.cons_append, readString_of_short hu he, ih]
      simp
  | @code a b c d n cs letters hn hlow hhigh h ih =>
      simp only [List.cons_append]
      rw [Json.readString, hn]
      dsimp only
      rw [if_neg (by simpa using hlow), if_neg (by simpa using hhigh), ih]
      simp
  | @pair a b c d e f g i n m cs letters hn hhigh hm hlow h ih =>
      simp only [List.cons_append]
      rw [Json.readString, hn]
      dsimp only
      rw [if_neg (by simp; omega), if_pos (by simpa using hhigh)]
      simp only [hm]
      rw [if_pos (by simpa using hlow), ih]
      simp

/-- What is read of a string stands in front of a quote, and spells it. -/
theorem exists_letters_of_readString {acc cs rest : List Char} {s : String}
    (h : readString acc cs = .ok (s, rest)) :
    ∃ spelled letters, Letters spelled letters ∧ cs = spelled ++ '"' :: rest ∧
      s = String.ofList (acc.reverse ++ letters) := by
  fun_induction Json.readString acc cs with
  | case2 acc rest' =>
      cases h
      exact ⟨[], [], .nil, rfl, by rw [List.append_nil]⟩
  | case6 acc a b c d n hn hlow hhigh e f g i cs m hm hlow' ih =>
      obtain ⟨spelled, letters, hspelled, rfl, rfl⟩ := ih h
      exact ⟨_, _, .pair hn (by simpa using hhigh) hm (by simpa using hlow') hspelled, rfl,
        by simp⟩
  | case9 acc a b c d cs n hn hlow hhigh ih =>
      obtain ⟨spelled, letters, hspelled, rfl, rfl⟩ := ih h
      exact ⟨_, _, .code hn (by simpa using hlow) (by simpa using hhigh) hspelled, rfl, by simp⟩
  | case10 acc c cs hcode e he ih =>
      obtain ⟨spelled, letters, hspelled, rfl, rfl⟩ := ih h
      exact ⟨_, _, .short he hspelled, rfl, by simp⟩
  | case13 acc c cs hquote hcode hescape hcontrol ih =>
      obtain ⟨spelled, letters, hspelled, rfl, rfl⟩ := ih h
      -- a lone backslash would stand in front of the end of the text
      have hback : c ≠ '\\' := by
        rintro rfl
        cases hrest : spelled ++ '"' :: rest with
        | nil => simp at hrest
        | cons d ds => exact hescape d ds rfl hrest
      exact ⟨_, _, .plain hquote hback hcontrol hspelled, rfl, by simp⟩
  | _ => cases h

/-! ### Numbers -/

/-- Digits as a number begins with them: the first is a zero only if there is no other. -/
structure WholeDigits (ds : List Char) : Prop where
  ne_nil : ds ≠ []
  digits : AllDigits ds
  zero : ∀ d more, ds ≠ '0' :: d :: more

/-- The spellings of a fraction, with its digits. -/
inductive Fraction : List Char → Option (List Char) → Prop
  | absent : Fraction [] none
  | present {ds : List Char} (hne : ds ≠ []) (hds : AllDigits ds) : Fraction ('.' :: ds) (some ds)

/-- The spellings of an exponent. -/
inductive Exponent : List Char → Option Int → Prop
  | absent : Exponent [] none
  | unsigned {e : Char} {ds : List Char} (he : e = 'e' ∨ e = 'E') (hne : ds ≠ [])
      (hds : AllDigits ds) : Exponent (e :: ds) (some (Text.decimalValue ds))
  | plus {e : Char} {ds : List Char} (he : e = 'e' ∨ e = 'E') (hne : ds ≠ [])
      (hds : AllDigits ds) : Exponent (e :: '+' :: ds) (some (Text.decimalValue ds))
  | minus {e : Char} {ds : List Char} (he : e = 'e' ∨ e = 'E') (hne : ds ≠ [])
      (hds : AllDigits ds) : Exponent (e :: '-' :: ds) (some (-(Text.decimalValue ds : Int)))

/-- The value of a number, if one is kept: a whole number by itself is exact where it can be. -/
def numberOf (negative : Bool) (ds : List Char) (fraction : Option (List Char))
    (exponent : Option Int) : Except Fault Json :=
  if fraction.isNone && exponent.isNone then wholeOf negative ds
  else floatOf negative ds (fraction.getD []) (exponent.getD 0)

/-- The spellings of a number without its sign. -/
inductive Numeral (negative : Bool) : List Char → Json → Prop
  | mk {ds fraction exponent : List Char} {f : Option (List Char)} {e : Option Int} {v : Json}
      (hds : WholeDigits ds) (hfraction : Fraction fraction f) (hexponent : Exponent exponent e)
      (hv : numberOf negative ds f e = .ok v) : Numeral negative (ds ++ (fraction ++ exponent)) v

theorem allDigits_takeWhile (cs : List Char) : AllDigits (cs.takeWhile Char.isDigit) :=
  fun _ hc => List.mem_takeWhile_imp hc

theorem takeWhile_append_drop (cs : List Char) :
    cs.takeWhile Char.isDigit ++ cs.drop (cs.takeWhile Char.isDigit).length = cs :=
  List.prefix_iff_eq_append.1 (List.takeWhile_prefix _)

theorem exists_fraction_of_readFraction {cs rest : List Char} {f : Option (List Char)}
    (h : readFraction cs = .ok (f, rest)) :
    ∃ spelled, Fraction spelled f ∧ cs = spelled ++ rest := by
  unfold readFraction at h
  split at h
  · dsimp only at h
    split at h
    · cases h
    · rename_i cs hsome
      cases h
      exact ⟨_, .present (by simpa using hsome) (allDigits_takeWhile cs),
        congrArg ('.' :: ·) (takeWhile_append_drop cs).symm⟩
  · cases h
    exact ⟨[], .absent, rfl⟩

theorem Fraction.readFraction {spelled rest : List Char} {f : Option (List Char)}
    (h : Fraction spelled f) (hrest : ∀ c ∈ rest.head?, c.isDigit = false ∧ c ≠ '.') :
    readFraction (spelled ++ rest) = .ok (f, rest) := by
  cases h with
  | absent => exact readFraction_nil fun c hc => (hrest c hc).2
  | @present ds hne hds =>
      rw [List.cons_append, Json.readFraction, takeWhile_digits hds fun c hc => (hrest c hc).1,
        List.drop_left]
      exact if_neg (by simpa using hne)

theorem exists_digits_of_exponentOf {negative : Bool} {cs rest : List Char} {e : Option Int}
    (h : exponentOf negative cs = .ok (e, rest)) :
    ∃ ds, ds ≠ [] ∧ AllDigits ds ∧ cs = ds ++ rest ∧
      e = some (if negative then -(Text.decimalValue ds : Int) else Text.decimalValue ds) := by
  unfold exponentOf at h
  dsimp only at h
  split at h
  · cases h
  · rename_i hsome
    cases h
    exact ⟨_, by simpa using hsome, allDigits_takeWhile cs, (takeWhile_append_drop cs).symm, rfl⟩

theorem exponentOf_digits {negative : Bool} {ds rest : List Char} (hne : ds ≠ [])
    (hds : AllDigits ds) (hrest : ∀ c ∈ rest.head?, c.isDigit = false) :
    exponentOf negative (ds ++ rest) =
      .ok (some (if negative then -(Text.decimalValue ds : Int) else Text.decimalValue ds),
        rest) := by
  unfold exponentOf
  dsimp only
  rw [takeWhile_digits hds hrest, List.drop_left, if_neg (by simpa using hne)]

theorem readExponent_mark {e : Char} (he : e = 'e' ∨ e = 'E') (cs : List Char) :
    readExponent (e :: cs) = readExponent ('e' :: cs) := by
  rcases he with rfl | rfl
  · rfl
  · unfold readExponent
    rfl

theorem exists_exponent_of_readExponent {cs rest : List Char} {e : Option Int}
    (h : readExponent cs = .ok (e, rest)) :
    ∃ spelled, Exponent spelled e ∧ cs = spelled ++ rest := by
  by_cases hmark : ∀ c ∈ cs.head?, c ≠ 'e' ∧ c ≠ 'E'
  · rw [readExponent_nil hmark] at h
    cases h
    exact ⟨[], .absent, rfl⟩
  · cases cs with
    | nil => simp at hmark
    | cons m cs =>
        have hm : m = 'e' ∨ m = 'E' := by
          by_contra hno
          exact hmark (by simpa [not_or] using hno)
        rw [readExponent_mark hm] at h
        by_cases hsign : ∀ c ∈ cs.head?, c ≠ '+' ∧ c ≠ '-'
        · rw [readExponent_unsigned hsign] at h
          obtain ⟨ds, hne, hds, rfl, rfl⟩ := exists_digits_of_exponentOf h
          exact ⟨_, .unsigned hm hne hds, rfl⟩
        · cases cs with
          | nil => simp at hsign
          | cons sign cs =>
              have hs : sign = '+' ∨ sign = '-' := by
                by_contra hno
                exact hsign (by simpa [not_or] using hno)
              rcases hs with rfl | rfl
              · rw [readExponent_plus] at h
                obtain ⟨ds, hne, hds, rfl, rfl⟩ := exists_digits_of_exponentOf h
                exact ⟨_, .plus hm hne hds, rfl⟩
              · rw [readExponent_minus] at h
                obtain ⟨ds, hne, hds, rfl, rfl⟩ := exists_digits_of_exponentOf h
                exact ⟨_, .minus hm hne hds, rfl⟩

theorem Exponent.readExponent {spelled rest : List Char} {e : Option Int} (h : Exponent spelled e)
    (hrest : EndsNumber rest) : readExponent (spelled ++ rest) = .ok (e, rest) := by
  have hdigit : ∀ c ∈ rest.head?, c.isDigit = false := fun c hc => (hrest c hc).1
  cases h with
  | absent => exact readExponent_nil fun c hc => ⟨(hrest c hc).2.2.1, (hrest c hc).2.2.2.1⟩
  | @unsigned mark ds he hne hds =>
      have hhead : ∀ c ∈ (ds ++ rest).head?, c ≠ '+' ∧ c ≠ '-' := by
        obtain ⟨d, more, rfl⟩ := List.exists_cons_of_ne_nil hne
        intro c hc
        obtain rfl : d = c := Option.some.inj hc
        have hd := hds d List.mem_cons_self
        constructor <;> rintro rfl <;> cases hd
      rw [List.cons_append, readExponent_mark he, readExponent_unsigned hhead,
        exponentOf_digits hne hds hdigit]
      rfl
  | plus he hne hds =>
      rw [List.cons_append, List.cons_append, readExponent_mark he, readExponent_plus,
        exponentOf_digits hne hds hdigit]
      rfl
  | minus he hne hds =>
      rw [List.cons_append, List.cons_append, readExponent_mark he, readExponent_minus,
        exponentOf_digits hne hds hdigit]
      rfl

/-- What is read of a number stands at the front, and spells it. -/
theorem exists_numeral_of_readNumber {negative : Bool} {cs rest : List Char} {v : Json}
    (h : readNumber negative cs = .ok (v, rest)) :
    ∃ spelled, Numeral negative spelled v ∧ cs = spelled ++ rest := by
  unfold readNumber at h
  dsimp only at h
  split at h
  · cases h
  · cases h
  · rename_i hne hzero
    have hds : WholeDigits (cs.takeWhile Char.isDigit) :=
      ⟨hne, allDigits_takeWhile cs, fun d more => hzero d more⟩
    obtain ⟨⟨f, cs'⟩, hf, h⟩ := exists_of_bind_eq_ok h
    obtain ⟨fraction, hfraction, hcs⟩ := exists_fraction_of_readFraction hf
    obtain ⟨⟨e, cs''⟩, he, h⟩ := exists_of_bind_eq_ok h
    obtain ⟨exponent, hexponent, rfl⟩ := exists_exponent_of_readExponent he
    dsimp only at h
    have hsplit : cs = cs.takeWhile Char.isDigit ++ (fraction ++ exponent) ++ cs'' := by
      rw [List.append_assoc, List.append_assoc, ← hcs, takeWhile_append_drop]
    split at h
    · obtain ⟨v', hv, h⟩ := exists_of_bind_eq_ok h
      cases h
      exact ⟨_, .mk hds hfraction hexponent hv, hsplit⟩
    · rename_i hboth
      obtain ⟨v', hv, h⟩ := exists_of_bind_eq_ok h
      cases h
      refine ⟨_, .mk hds hfraction hexponent ?_, hsplit⟩
      rw [numberOf, if_neg, hv]
      cases f <;> cases e <;> simp at hboth ⊢

theorem Numeral.exists_digit {negative : Bool} {cs : List Char} {v : Json}
    (h : Numeral negative cs v) : ∃ d more, cs = d :: more ∧ d.isDigit = true := by
  obtain ⟨hds, -, -, -⟩ := h
  obtain ⟨d, ds, rfl⟩ := List.exists_cons_of_ne_nil hds.ne_nil
  exact ⟨d, _, rfl, hds.digits d List.mem_cons_self⟩

/-- A number ends with a digit. -/
theorem Numeral.isDigit_getLast? {negative : Bool} {cs : List Char} {v : Json}
    (h : Numeral negative cs v) : ∀ c ∈ cs.getLast?, c.isDigit = true := by
  have hlast : ∀ (front : List Char) {ds : List Char}, ds ≠ [] → AllDigits ds →
      ∀ c ∈ (front ++ ds).getLast?, c.isDigit = true := by
    intro front ds hne hds c hc
    rw [List.getLast?_append_of_ne_nil front hne] at hc
    exact hds c (List.mem_of_getLast? hc)
  cases h with
  | @mk ds fraction exponent f e _ hds hfraction hexponent hv =>
      cases hexponent with
      | absent =>
          cases hfraction with
          | absent => simpa using hlast [] hds.ne_nil hds.digits
          | present hne hfs => simpa using hlast (ds ++ ['.']) hne hfs
      | @unsigned mark es _ hne hes => simpa using hlast (ds ++ (fraction ++ [mark])) hne hes
      | @plus mark es _ hne hes => simpa using hlast (ds ++ (fraction ++ [mark, '+'])) hne hes
      | @minus mark es _ hne hes => simpa using hlast (ds ++ (fraction ++ [mark, '-'])) hne hes

/-- What stands behind the digits of a number does not go on with them. -/
theorem Exponent.head? {spelled rest : List Char} {e : Option Int} (h : Exponent spelled e)
    (hrest : EndsNumber rest) :
    ∀ c ∈ (spelled ++ rest).head?, c.isDigit = false ∧ c ≠ '.' := by
  have hmark : ∀ {m : Char} {more : List Char}, m = 'e' ∨ m = 'E' →
      ∀ c ∈ (m :: more).head?, c.isDigit = false ∧ c ≠ '.' := by
    rintro m more (rfl | rfl) c hc <;> cases hc <;> exact ⟨by decide, by decide⟩
  cases h with
  | absent => exact fun c hc => ⟨(hrest c hc).1, (hrest c hc).2.1⟩
  | unsigned he => exact hmark he
  | plus he => exact hmark he
  | minus he => exact hmark he

/-- A number is read where it is spelled. -/
theorem Numeral.readNumber {negative : Bool} {spelled rest : List Char} {v : Json}
    (h : Numeral negative spelled v) (hrest : EndsNumber rest) :
    readNumber negative (spelled ++ rest) = .ok (v, rest) := by
  cases h with
  | @mk ds fraction exponent f e _ hds hfraction hexponent hv =>
      have hexponentHead := hexponent.head? hrest
      have hfractionHead : ∀ c ∈ (fraction ++ (exponent ++ rest)).head?, c.isDigit = false := by
        cases hfraction with
        | absent => exact fun c hc => (hexponentHead c hc).1
        | present =>
            intro c hc
            cases hc
            decide
      unfold Json.readNumber
      dsimp only
      rw [List.append_assoc, List.append_assoc, takeWhile_digits hds.digits hfractionHead,
        List.drop_left]
      split
      · exact absurd rfl hds.ne_nil
      · exact absurd rfl (hds.zero _ _)
      · rw [hfraction.readFraction hexponentHead]
        change (readExponent (exponent ++ rest) >>= _) = _
        rw [hexponent.readExponent hrest]
        rw [numberOf] at hv
        cases f <;> cases e <;> simp at hv <;> simp [hv, bind, Except.bind, pure, Except.pure]

end StandardsGate.Json
