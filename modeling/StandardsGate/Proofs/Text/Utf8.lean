import StandardsGate.Text.Utf8

/-!
Text that is encoded and decoded again.

A character is encoded in one to four bytes. The first of them tells how many follow and between
which bounds the second one lies, so reading a character from the front of some bytes finds just
those that encode it.

Main results:

* `Utf8.step_encodeChar` — **one character is read as it was written**;
* `Utf8.flatMap_encodeChar_isPrefix_iff` — texts begin with each other as their bytes do;
* `Utf8.decode?_encode` — **decoding undoes encoding**;
* `Utf8.decodeLossy_of_decode?` — well-formed bytes need no replacement characters.
-/

namespace StandardsGate.Utf8

theorem charOf_toNat (c : Char) : charOf c.toNat = c := by
  have hvalid : c.toNat.isValidChar := c.valid
  rw [charOf, dif_pos hvalid]
  rfl

theorem toNat_lt_or (c : Char) : c.toNat < 0xD800 ∨ 0xDFFF < c.toNat ∧ c.toNat < 0x110000 := c.valid

theorem toNat_ofNat_of_lt {n : Nat} (h : n < 256) : (UInt8.ofNat n).toNat = n :=
  UInt8.toNat_ofNat_of_lt' h

theorem isContinuation_of_toNat {b : UInt8} (h : 0x80 ≤ b.toNat ∧ b.toNat ≤ 0xBF) :
    isContinuation b = true := by
  unfold isContinuation
  rw [Bool.and_eq_true, decide_eq_true_iff, decide_eq_true_iff, UInt8.le_iff_toNat_le,
    UInt8.le_iff_toNat_le]
  exact h

/-- The continuation byte of six bits. -/
theorem toNat_tail (n : Nat) : (UInt8.ofNat (0x80 + n % 64)).toNat = 0x80 + n % 64 :=
  toNat_ofNat_of_lt (by omega)

theorem isContinuation_tail (n : Nat) : isContinuation (UInt8.ofNat (0x80 + n % 64)) = true := by
  refine isContinuation_of_toNat ?_
  rw [toNat_tail]
  omega

theorem append_tail (bits n : Nat) :
    append bits (UInt8.ofNat (0x80 + n % 64)) = bits * 64 + n % 64 := by
  have hbyte := toNat_tail n
  unfold append
  omega

/-- What a leading byte announces, by its number. -/
theorem leading?_eq (b : UInt8) :
    leading? b =
      if 0xC2 ≤ b.toNat ∧ b.toNat ≤ 0xDF then some (0x80, 0xBF, 1, b.toNat - 0xC0)
      else if b.toNat = 0xE0 then some (0xA0, 0xBF, 2, 0)
      else if b.toNat = 0xED then some (0x80, 0x9F, 2, 0xD)
      else if 0xE1 ≤ b.toNat ∧ b.toNat ≤ 0xEF then some (0x80, 0xBF, 2, b.toNat - 0xE0)
      else if b.toNat = 0xF0 then some (0x90, 0xBF, 3, 0)
      else if 0xF1 ≤ b.toNat ∧ b.toNat ≤ 0xF3 then some (0x80, 0xBF, 3, b.toNat - 0xF0)
      else if b.toNat = 0xF4 then some (0x80, 0x8F, 3, 4)
      else none := by
  simp only [leading?, Bool.and_eq_true, decide_eq_true_iff, UInt8.le_iff_toNat_le,
    ← UInt8.toNat_inj]
  rfl

/-- What a leading byte announces: one byte, or two or three bytes, from 128 on, and no character that
could be written shorter. -/
theorem leading?_cases {a low high : UInt8} {n bits : Nat}
    (h : leading? a = some (low, high, n, bits)) :
    ¬ a < 0x80 ∧ 0x80 ≤ low.toNat ∧
      (n = 1 ∧ 2 ≤ bits ∨ (n = 2 ∨ n = 3) ∧ (1 ≤ bits ∨ 0x90 ≤ low.toNat)) := by
  rw [UInt8.lt_iff_toNat_lt]
  change ¬ a.toNat < 0x80 ∧ _
  rw [leading?_eq] at h
  repeat' split at h
  all_goals
    simp only [Option.some.injEq, Prod.mk.injEq, reduceCtorEq] at h
  all_goals
    obtain ⟨rfl, rfl, rfl, rfl⟩ := h
    refine ⟨by omega, by decide, ?_⟩
  all_goals
    simp
    try omega

/-- Whether a byte may stand behind a leading byte. -/
def IsWithin (low high c : UInt8) : Prop := low.toNat ≤ c.toNat ∧ c.toNat ≤ high.toNat

theorem not_isWithin_iff {low high c : UInt8} :
    ¬ IsWithin low high c ↔ (decide (c < low) || decide (high < c)) = true := by
  rw [Bool.or_eq_true, decide_eq_true_iff, decide_eq_true_iff, UInt8.lt_iff_toNat_lt,
    UInt8.lt_iff_toNat_lt, IsWithin]
  omega

theorem IsWithin.not_outside {low high c : UInt8} (h : IsWithin low high c) :
    ¬ (decide (c < low) || decide (high < c)) = true :=
  fun houtside => not_isWithin_iff.2 houtside h

/-! ### One character -/

section Leading

variable {b low high c d e : UInt8} {bits : Nat}

/-- A character of two bytes. -/
theorem step_two (hlead : leading? b = some (low, high, 1, bits)) (hc : IsWithin low high c)
    (rest : List UInt8) : step (b :: c :: rest) = (some (charOf (append bits c)), rest) := by
  rw [step, if_neg (leading?_cases hlead).1, hlead]
  dsimp only
  rw [if_neg hc.not_outside, if_pos rfl]

/-- A character of three bytes. -/
theorem step_three (hlead : leading? b = some (low, high, 2, bits)) (hc : IsWithin low high c)
    (hd : isContinuation d = true) (rest : List UInt8) :
    step (b :: c :: d :: rest) = (some (charOf (append (append bits c) d)), rest) := by
  rw [step, if_neg (leading?_cases hlead).1, hlead]
  dsimp only
  rw [if_neg hc.not_outside, if_neg (by decide), hd, if_neg (by decide), if_pos rfl]

/-- A character of four bytes. -/
theorem step_four (hlead : leading? b = some (low, high, 3, bits)) (hc : IsWithin low high c)
    (hd : isContinuation d = true) (he : isContinuation e = true) (rest : List UInt8) :
    step (b :: c :: d :: e :: rest) =
      (some (charOf (append (append (append bits c) d) e)), rest) := by
  rw [step, if_neg (leading?_cases hlead).1, hlead]
  dsimp only
  rw [if_neg hc.not_outside, if_neg (by decide), hd, if_neg (by decide), if_neg (by decide), he,
    if_neg (by decide)]

end Leading

section Encoded

variable {n : Nat}

/-- What the first of two bytes announces. -/
theorem leading?_of_two (hlow : 0x80 ≤ n) (hhigh : n < 0x800) :
    leading? (UInt8.ofNat (0xC0 + n / 64)) = some (0x80, 0xBF, 1, n / 64) := by
  have hbyte := toNat_ofNat_of_lt (n := 0xC0 + n / 64) (by omega)
  rw [leading?_eq, hbyte, if_pos (by omega), Nat.add_sub_cancel_left]

/-- What the first of three bytes announces: the second one cannot be so low that two bytes would
do, nor so high that a surrogate would be encoded. -/
theorem exists_leading?_of_three (hlow : 0x800 ≤ n) (hhigh : n < 0x10000)
    (hsurrogate : n < 0xD800 ∨ 0xDFFF < n) :
    ∃ low high, leading? (UInt8.ofNat (0xE0 + n / 4096)) = some (low, high, 2, n / 4096) ∧
      IsWithin low high (UInt8.ofNat (0x80 + n / 64 % 64)) := by
  have hbyte := toNat_ofNat_of_lt (n := 0xE0 + n / 4096) (by omega)
  simp only [IsWithin, toNat_tail]
  rw [leading?_eq, hbyte, if_neg (by omega)]
  by_cases he0 : n / 4096 = 0
  · refine ⟨0xA0, 0xBF, ?_, ?_⟩
    · rw [if_pos (by omega), he0]
    · change 0xA0 ≤ _ ∧ _ ≤ 0xBF
      omega
  rw [if_neg (by omega)]
  by_cases hed : n / 4096 = 0xD
  · refine ⟨0x80, 0x9F, ?_, ?_⟩
    · rw [if_pos (by omega), hed]
    · change 0x80 ≤ _ ∧ _ ≤ 0x9F
      omega
  rw [if_neg (by omega), if_pos (by omega), Nat.add_sub_cancel_left]
  refine ⟨0x80, 0xBF, rfl, ?_⟩
  change 0x80 ≤ _ ∧ _ ≤ 0xBF
  omega

/-- What the first of four bytes announces: the second one cannot be so low that three bytes would
do, nor so high that the last code point would be passed. -/
theorem exists_leading?_of_four (hlow : 0x10000 ≤ n) (hhigh : n < 0x110000) :
    ∃ low high, leading? (UInt8.ofNat (0xF0 + n / 262144)) = some (low, high, 3, n / 262144) ∧
      IsWithin low high (UInt8.ofNat (0x80 + n / 4096 % 64)) := by
  have hbyte := toNat_ofNat_of_lt (n := 0xF0 + n / 262144) (by omega)
  simp only [IsWithin, toNat_tail]
  rw [leading?_eq, hbyte, if_neg (by omega), if_neg (by omega), if_neg (by omega),
    if_neg (by omega)]
  by_cases hf0 : n / 262144 = 0
  · refine ⟨0x90, 0xBF, ?_, ?_⟩
    · rw [if_pos (by omega), hf0]
    · change 0x90 ≤ _ ∧ _ ≤ 0xBF
      omega
  rw [if_neg (by omega)]
  by_cases hf4 : n / 262144 = 4
  · refine ⟨0x80, 0x8F, ?_, ?_⟩
    · rw [if_neg (by omega), if_pos (by omega), hf4]
    · change 0x80 ≤ _ ∧ _ ≤ 0x8F
      omega
  rw [if_pos (by omega), Nat.add_sub_cancel_left]
  refine ⟨0x80, 0xBF, rfl, ?_⟩
  change 0x80 ≤ _ ∧ _ ≤ 0xBF
  omega

end Encoded

/-- **One character is read as it was written.** -/
theorem step_encodeChar (c : Char) (rest : List UInt8) :
    step (encodeChar c ++ rest) = (some c, rest) := by
  have hc := toNat_lt_or c
  have hchar := charOf_toNat c
  unfold encodeChar
  generalize c.toNat = n at hc hchar ⊢
  dsimp only
  by_cases h1 : n < 0x80
  · have hbyte := toNat_ofNat_of_lt (n := n) (by omega)
    have hlow : UInt8.ofNat n < 0x80 := by
      rw [UInt8.lt_iff_toNat_lt, hbyte]
      exact h1
    rw [if_pos h1, List.singleton_append, step, if_pos hlow, hbyte, hchar]
  rw [if_neg h1]
  by_cases h2 : n < 0x800
  · have hlead := leading?_of_two (Nat.le_of_not_lt h1) h2
    have hwithin : IsWithin 0x80 0xBF (UInt8.ofNat (0x80 + n % 64)) := by
      rw [IsWithin, toNat_tail]
      change 0x80 ≤ _ ∧ _ ≤ 0xBF
      omega
    have hbits : n / 64 * 64 + n % 64 = n := by omega
    rw [if_pos h2, List.cons_append, List.singleton_append, step_two hlead hwithin, append_tail,
      hbits, hchar]
  rw [if_neg h2]
  by_cases h3 : n < 0x10000
  · obtain ⟨low, high, hlead, hwithin⟩ :=
      exists_leading?_of_three (Nat.le_of_not_lt h2) h3 (by omega)
    have hbits : (n / 4096 * 64 + n / 64 % 64) * 64 + n % 64 = n := by omega
    rw [if_pos h3, List.cons_append, List.cons_append, List.singleton_append,
      step_three hlead hwithin (isContinuation_tail n), append_tail, append_tail, hbits, hchar]
  · obtain ⟨low, high, hlead, hwithin⟩ :=
      exists_leading?_of_four (Nat.le_of_not_lt h3) (by omega)
    have hbits : ((n / 262144 * 64 + n / 4096 % 64) * 64 + n / 64 % 64) * 64 + n % 64 = n := by
      omega
    rw [if_neg h3, List.cons_append, List.cons_append, List.cons_append, List.singleton_append,
      step_four hlead hwithin (isContinuation_tail _) (isContinuation_tail n), append_tail,
      append_tail, append_tail, hbits, hchar]

/-- The bytes of a character tell where they end. -/
theorem encodeChar_append_inj {c d : Char} {bs cs : List UInt8}
    (h : encodeChar c ++ bs = encodeChar d ++ cs) : c = d ∧ bs = cs := by
  have hstep := congrArg step h
  rw [step_encodeChar, step_encodeChar] at hstep
  obtain ⟨hc, hbs⟩ := Prod.mk.inj hstep
  exact ⟨Option.some.inj hc, hbs⟩

/-- **Bytes begin with those of a text exactly if the text that they encode begins with it.** -/
theorem flatMap_encodeChar_isPrefix_iff {cs ds : List Char} :
    cs.flatMap encodeChar <+: ds.flatMap encodeChar ↔ cs <+: ds := by
  induction cs generalizing ds with
  | nil => simp
  | cons c cs ih =>
      constructor
      · rintro ⟨rest, h⟩
        rw [List.flatMap_cons, List.append_assoc] at h
        cases ds with
        | nil =>
            have hstep := step_encodeChar c (cs.flatMap encodeChar ++ rest)
            rw [h] at hstep
            cases hstep
        | cons d ds =>
            obtain ⟨rfl, hrest⟩ := encodeChar_append_inj h
            exact List.cons_prefix_cons.2 ⟨rfl, ih.1 ⟨rest, hrest⟩⟩
      · rintro ⟨rest, rfl⟩
        exact ⟨rest.flatMap encodeChar, by rw [List.flatMap_append]⟩

theorem decodeRuns_encode (cs : List Char) :
    decodeRuns (cs.flatMap encodeChar) = cs.map some := by
  induction cs with
  | nil => rw [List.flatMap_nil, decodeRuns]; rfl
  | cons c cs ih =>
      rw [List.flatMap_cons]
      have hstep := step_encodeChar c (cs.flatMap encodeChar)
      cases hbytes : encodeChar c ++ cs.flatMap encodeChar with
      | nil => rw [hbytes] at hstep; cases hstep
      | cons b bs =>
          rw [hbytes] at hstep
          rw [decodeRuns, hstep, ih]
          rfl

/-- **Decoding undoes encoding.** -/
theorem decode?_encode (s : String) : decode? (encode s) = some s := by
  have hall : ∀ cs : List Char, (cs.map some).mapM id = some cs := by
    intro cs
    induction cs with
    | nil => rfl
    | cons c cs ih =>
        rw [List.map_cons, List.mapM_cons, ih]
        rfl
  rw [decode?, encode, decodeRuns_encode, hall, Option.map_some, String.ofList_toList]

/-! ### Well-formed bytes -/

/-- Values that are all there are those of the list. -/
theorem eq_map_some_of_mapM_id {α : Type} {os : List (Option α)} {as : List α}
    (h : os.mapM id = some as) : os = as.map some := by
  induction os generalizing as with
  | nil =>
      obtain rfl : [] = as := Option.some.inj h
      rfl
  | cons o os ih =>
      rw [List.mapM_cons] at h
      obtain ⟨a, ha, h⟩ := Option.bind_eq_some_iff.1 h
      obtain ⟨rest, hrest, h⟩ := Option.bind_eq_some_iff.1 h
      obtain rfl : a :: rest = as := Option.some.inj h
      have ho : o = some a := ha
      rw [ho, ih hrest, List.map_cons]

/-- **Well-formed bytes need no replacement characters.** -/
theorem decodeLossy_of_decode? {bs : List UInt8} {s : String} (h : decode? bs = some s) :
    decodeLossy bs = s := by
  obtain ⟨cs, hcs, rfl⟩ := Option.map_eq_some_iff.1 h
  have hruns : decodeRuns bs = cs.map some := eq_map_some_of_mapM_id hcs
  rw [decodeLossy, decodeChars, hruns, List.map_map]
  refine congrArg String.ofList ?_
  simp [Function.comp_def]

end StandardsGate.Utf8
