import StandardsGate.Proofs.Text.Lines
import StandardsGate.Proofs.Text.Utf8

/-!
Bytes that need not be text, as lines.

A byte below 128 is a character of its own wherever it stands, also behind a character that is
broken off, and the characters that other bytes become are not below 128. So decoding keeps line
feeds, and all texts of such characters, in their places: it does not matter whether bytes are
decoded first and the text is cut into lines, or the bytes are cut into lines and these are decoded.

Main definitions:

* `Utf8.IsPlain` — whether all characters of a text are below 128;
* `Utf8.single` — bytes taken one by one for characters;
* `Utf8.Consumes` — what a step makes of bytes.

Main results:

* `Utf8.step_of_high` — **what one step can do**;
* `Utf8.decodeChars_append_low` — **a byte below 128 keeps its neighbours apart**;
* `Utf8.splitOn_decodeChars` — **decoding keeps lines**;
* `Utf8.decodeChars_induct` — induction on bytes, character by character;
* `Utf8.isPrefix_decodeChars_iff` — **decoding keeps what lines begin with**.
-/

namespace StandardsGate.Utf8

/-- Whether all characters of a text are below 128, so that each is one byte. -/
def IsPlain (cs : List Char) : Prop := ∀ c ∈ cs, c.toNat < 0x80

/-- Bytes taken one by one for the characters of their numbers. -/
def single (bs : List UInt8) : List Char := bs.map fun b => charOf b.toNat

/-! ### Characters and bytes -/

theorem charOf_of_valid {n : Nat} (h : n.isValidChar) : (charOf n).toNat = n := by
  rw [charOf, dif_pos h]
  rfl

theorem toNat_charOf {n : Nat} (h : n < 0x80) : (charOf n).toNat = n :=
  charOf_of_valid (Or.inl (by omega))

/-- No number from 128 on becomes a character below 128. -/
theorem le_toNat_charOf {n : Nat} (h : 0x80 ≤ n) : 0x80 ≤ (charOf n).toNat := by
  by_cases hvalid : n.isValidChar
  · rw [charOf_of_valid hvalid]
    exact h
  · rw [charOf, dif_neg hvalid]
    decide

theorem le_append (bits : Nat) (b : UInt8) : bits * 64 ≤ append bits b := Nat.le_add_right ..

theorem isContinuation_eq_false {b : UInt8} (h : b < 0x80) : isContinuation b = false := by
  unfold isContinuation
  rw [Bool.and_eq_false_iff, decide_eq_false_iff_not]
  exact Or.inl (UInt8.not_le.2 h)

theorem le_of_isContinuation {b : UInt8} (h : isContinuation b = true) : 0x80 ≤ b := by
  unfold isContinuation at h
  exact of_decide_eq_true (Bool.and_eq_true_iff.1 h).1

/-! ### One step -/

section Leading

variable {a low high : UInt8} {n bits : Nat} (hlead : leading? a = some (low, high, n, bits))

include hlead

/-- A character that is broken off behind its first byte. -/
theorem step_broken_one {rest : List UInt8} (h : ∀ c ∈ rest.head?, ¬ IsWithin low high c) :
    step (a :: rest) = (none, rest) := by
  rw [step, if_neg (leading?_cases hlead).1, hlead]
  cases rest with
  | nil => rfl
  | cons c rest => exact if_pos (not_isWithin_iff.1 (h c rfl))

variable {c : UInt8} (hc : IsWithin low high c) (hn : n ≠ 1)

include hc hn

/-- A character that is broken off behind its second byte. -/
theorem step_broken_two {rest : List UInt8} (h : ∀ d ∈ rest.head?, isContinuation d = false) :
    step (a :: c :: rest) = (none, rest) := by
  rw [step, if_neg (leading?_cases hlead).1, hlead]
  dsimp only
  rw [if_neg hc.not_outside, if_neg hn]
  cases rest with
  | nil => rfl
  | cons d rest => simp [h d rfl]

/-- A character that is broken off behind its third byte. -/
theorem step_broken_three {d : UInt8} (hd : isContinuation d = true) (hn2 : n ≠ 2)
    {rest : List UInt8} (h : ∀ e ∈ rest.head?, isContinuation e = false) :
    step (a :: c :: d :: rest) = (none, rest) := by
  rw [step, if_neg (leading?_cases hlead).1, hlead]
  dsimp only
  rw [if_neg hc.not_outside, if_neg hn, hd, if_neg (by decide), if_neg hn2]
  cases rest with
  | nil => rfl
  | cons e rest => simp [h e rfl]

end Leading

theorem exists_cons_of_not_forall {p : UInt8 → Prop} {bs : List UInt8}
    (h : ¬ ∀ b ∈ bs.head?, p b) : ∃ b rest, bs = b :: rest ∧ ¬ p b := by
  cases bs with
  | nil => simp at h
  | cons b rest => exact ⟨b, rest, rfl, by simpa using h⟩

/-- What holds of bytes below 128 holds of the first byte also if such bytes are put behind. -/
theorem forall_head?_append {p : UInt8 → Prop} (hp : ∀ b, b < 0x80 → p b) {bs after : List UInt8}
    (hbs : ∀ b ∈ bs.head?, p b) (hafter : ∀ b ∈ after.head?, b < 0x80) :
    ∀ b ∈ (bs ++ after).head?, p b := by
  cases bs with
  | nil => exact fun b hb => hp b (hafter b hb)
  | cons b bs => exact hbs

/-- What a step makes of bytes: it consumes a block of them behind the first, makes a character from
128 on of that, and comes to the same whatever stands behind the bytes, if that begins below 128. -/
structure Consumes (a : UInt8) (rest : List UInt8) (o : Option Char) (block more : List UInt8) :
    Prop where
  eq_append : rest = block ++ more
  le_of_mem : ∀ b ∈ block, 0x80 ≤ b
  le_char : 0x80 ≤ (o.getD replacement).toNat
  step_append : ∀ after : List UInt8, (∀ b ∈ after.head?, b < 0x80) →
    step (a :: (rest ++ after)) = (o, more ++ after)

/-- A step that makes no character puts the replacement in its place. -/
theorem le_replaced : 0x80 ≤ ((none : Option Char).getD replacement).toNat := by decide

/-- What one step can do if two or three bytes have to follow, and one of them does. -/
theorem step_of_long {a low high c : UInt8} {n bits : Nat} {rest : List UInt8}
    (hlead : leading? a = some (low, high, n, bits)) (hc : IsWithin low high c)
    (hn : n = 2 ∨ n = 3) : ∃ o block more, Consumes a (c :: rest) o block more := by
  obtain ⟨-, hlow, hshape⟩ := leading?_cases hlead
  have hbits : 1 ≤ bits ∨ 0x90 ≤ low.toNat := by omega
  have hn1 : n ≠ 1 := by omega
  have hc80 : 0x80 ≤ c := UInt8.le_iff_toNat_le.2 (Nat.le_trans hlow hc.1)
  by_cases htwo : ∀ d ∈ rest.head?, isContinuation d = false
  · refine ⟨none, [c], rest, rfl, by simpa using hc80, le_replaced, fun after hafter => ?_⟩
    exact step_broken_two hlead hc hn1
      (forall_head?_append (fun _ => isContinuation_eq_false) htwo hafter)
  obtain ⟨d, rest, rfl, hd⟩ := exists_cons_of_not_forall htwo
  rw [Bool.not_eq_false] at hd
  have hd80 := le_of_isContinuation hd
  have hfirst := le_append bits c
  have hsecond := le_append (append bits c) d
  have hlarge : 0x80 ≤ append (append bits c) d := by
    have hclow := hc.1
    unfold append at hfirst hsecond ⊢
    omega
  by_cases hn2 : n = 2
  · subst hn2
    refine ⟨some (charOf (append (append bits c) d)), [c, d], rest, rfl, by simp [hc80, hd80],
      ?_, fun after _ => step_three hlead hc hd (rest ++ after)⟩
    rw [Option.getD_some]
    exact le_toNat_charOf hlarge
  obtain rfl : n = 3 := by omega
  by_cases hthree : ∀ e ∈ rest.head?, isContinuation e = false
  · refine ⟨none, [c, d], rest, rfl, by simp [hc80, hd80], le_replaced, fun after hafter => ?_⟩
    exact step_broken_three hlead hc hn1 hd hn2
      (forall_head?_append (fun _ => isContinuation_eq_false) hthree hafter)
  obtain ⟨e, rest, rfl, he⟩ := exists_cons_of_not_forall hthree
  rw [Bool.not_eq_false] at he
  have hthird := le_append (append (append bits c) d) e
  refine ⟨some (charOf (append (append (append bits c) d) e)), [c, d, e], rest, rfl,
    by simp [hc80, hd80, le_of_isContinuation he], ?_,
    fun after _ => step_four hlead hc hd he (rest ++ after)⟩
  rw [Option.getD_some]
  exact le_toNat_charOf (by omega)

/-- **What one step can do** at a byte from 128 on. -/
theorem step_of_high {a : UInt8} (ha : 0x80 ≤ a) (rest : List UInt8) :
    ∃ o block more, Consumes a rest o block more := by
  cases hlead : leading? a with
  | none =>
      refine ⟨none, [], rest, rfl, by simp, le_replaced, fun after _ => ?_⟩
      rw [step, if_neg (UInt8.not_lt.2 ha), hlead]
  | some lead =>
      obtain ⟨low, high, n, bits⟩ := lead
      obtain ⟨-, hlow, hshape⟩ := leading?_cases hlead
      have hbelow : ∀ b : UInt8, b < 0x80 → ¬ IsWithin low high b := by
        intro b hb hwithin
        exact absurd (UInt8.lt_iff_toNat_lt.1 hb) (Nat.not_lt.2 (Nat.le_trans hlow hwithin.1))
      by_cases hone : ∀ c ∈ rest.head?, ¬ IsWithin low high c
      · refine ⟨none, [], rest, rfl, by simp, le_replaced, fun after hafter => ?_⟩
        exact step_broken_one hlead (forall_head?_append hbelow hone hafter)
      obtain ⟨c, rest, rfl, hc⟩ := exists_cons_of_not_forall hone
      rw [Classical.not_not] at hc
      rcases hshape with ⟨rfl, hbits⟩ | ⟨hn, -⟩
      · have hc80 : 0x80 ≤ c := UInt8.le_iff_toNat_le.2 (Nat.le_trans hlow hc.1)
        have hfirst := le_append bits c
        refine ⟨some (charOf (append bits c)), [c], rest, rfl, by simpa using hc80,
          ?_, fun after _ => step_two hlead hc (rest ++ after)⟩
        rw [Option.getD_some]
        exact le_toNat_charOf (by omega)
      · exact step_of_long hlead hc hn

theorem Consumes.step {a : UInt8} {rest block more : List UInt8} {o : Option Char}
    (h : Consumes a rest o block more) : step (a :: rest) = (o, more) := by
  have hstep := h.step_append [] (by simp)
  rwa [List.append_nil, List.append_nil] at hstep

theorem Consumes.length_lt {a : UInt8} {rest block more : List UInt8} {o : Option Char}
    (h : Consumes a rest o block more) : more.length < (a :: rest).length := by
  rw [h.eq_append, List.length_cons, List.length_append]
  omega

/-! ### Character by character -/

theorem decodeChars_nil : decodeChars [] = [] := by
  rw [decodeChars, decodeRuns]
  rfl

theorem decodeChars_cons (b : UInt8) (rest : List UInt8) :
    decodeChars (b :: rest) =
      (step (b :: rest)).1.getD replacement :: decodeChars (step (b :: rest)).2 := by
  rw [decodeChars, decodeRuns]
  rfl

theorem decodeChars_low {b : UInt8} (hb : b < 0x80) (rest : List UInt8) :
    decodeChars (b :: rest) = charOf b.toNat :: decodeChars rest := by
  rw [decodeChars_cons, step, if_pos hb]
  rfl

/-- **A byte below 128 keeps its neighbours apart.** -/
theorem decodeChars_append_low (xs : List UInt8) {b : UInt8} (hb : b < 0x80) (ys : List UInt8) :
    decodeChars (xs ++ b :: ys) = decodeChars xs ++ charOf b.toNat :: decodeChars ys := by
  match xs with
  | [] => rw [decodeChars_nil, List.nil_append, List.nil_append, decodeChars_low hb]
  | a :: rest =>
      by_cases ha : a < 0x80
      · rw [List.cons_append, decodeChars_low ha, decodeChars_low ha,
          decodeChars_append_low rest hb ys]
        rfl
      · obtain ⟨o, block, more, hstep⟩ := step_of_high (UInt8.not_lt.1 ha) rest
        have hshort := hstep.length_lt
        have hafter : step (a :: (rest ++ b :: ys)) = (o, more ++ b :: ys) :=
          hstep.step_append (b :: ys) (by simpa using hb)
        rw [List.cons_append, decodeChars_cons, hafter, decodeChars_cons, hstep.step,
          decodeChars_append_low more hb ys]
        rfl
termination_by xs.length
decreasing_by
  · exact Nat.lt_succ_self rest.length
  · exact hshort

/-- Induction on bytes, character by character: a byte below 128 is one, and so is a block of others
at a time. -/
theorem decodeChars_induct {motive : List UInt8 → Prop} (nil : motive [])
    (low : ∀ b rest, b < 0x80 → motive rest → motive (b :: rest))
    (high : ∀ block rest c, (∀ b ∈ block, 0x80 ≤ b) → 0x80 ≤ c.toNat →
      decodeChars (block ++ rest) = c :: decodeChars rest → motive rest → motive (block ++ rest))
    (bs : List UInt8) : motive bs := by
  match bs with
  | [] => exact nil
  | a :: rest =>
      by_cases ha : a < 0x80
      · exact low a rest ha (decodeChars_induct nil low high rest)
      · have ha80 : 0x80 ≤ a := UInt8.not_lt.1 ha
        obtain ⟨o, block, more, hstep⟩ := step_of_high ha80 rest
        have hshort := hstep.length_lt
        have hdecoded : decodeChars (a :: rest) = o.getD replacement :: decodeChars more := by
          rw [decodeChars_cons, hstep.step]
        have hmore := decodeChars_induct nil low high more
        obtain ⟨rfl, hblock, hchar, -⟩ := hstep
        exact high (a :: block) more _ (List.forall_mem_cons.2 ⟨ha80, hblock⟩) hchar hdecoded hmore
termination_by bs.length
decreasing_by
  · exact Nat.lt_succ_self rest.length
  · exact hshort

/-! ### Lines -/

/-- A character below 128 comes from its byte. -/
theorem mem_of_mem_decodeChars {bs : List UInt8} {c : Char} (hc : c.toNat < 0x80)
    (h : c ∈ decodeChars bs) : UInt8.ofNat c.toNat ∈ bs := by
  induction bs using decodeChars_induct with
  | nil =>
      rw [decodeChars_nil] at h
      cases h
  | low b rest hb ih =>
      rw [decodeChars_low hb] at h
      rcases List.mem_cons.1 h with rfl | h
      · rw [toNat_charOf (UInt8.lt_iff_toNat_lt.1 hb), UInt8.ofNat_toNat]
        exact List.mem_cons_self ..
      · exact List.mem_cons_of_mem _ (ih h)
  | high block rest d _ hd hdecoded ih =>
      rw [hdecoded] at h
      rcases List.mem_cons.1 h with rfl | h
      · omega
      · exact List.mem_append_right _ (ih h)

/-- **Decoding keeps lines**: the lines of the text are the decoded lines of the bytes. -/
theorem splitOn_decodeChars (bs : List UInt8) :
    Text.splitOn '\n' (decodeChars bs) = (bs.splitOn 0x0A).map decodeChars := by
  by_cases hfeed : 0x0A ∈ bs
  · obtain ⟨line, rest, hbs, hline⟩ := List.eq_append_cons_of_mem hfeed
    have hshort : rest.length < bs.length := by
      rw [hbs, List.length_append, List.length_cons]
      omega
    have hnot : '\n' ∉ decodeChars line := fun h => hline (mem_of_mem_decodeChars (by decide) h)
    have hchar : charOf (0x0A : UInt8).toNat = '\n' := by decide
    rw [hbs, decodeChars_append_low line (by decide), hchar, Text.splitOn_append_cons,
      Text.splitOn_eq_singleton hnot, splitOn_decodeChars rest,
      List.splitOn_append_cons_self_of_not_mem hline]
    rfl
  · have hnot : '\n' ∉ decodeChars bs := fun h => hfeed (mem_of_mem_decodeChars (by decide) h)
    rw [Text.splitOn_eq_singleton hnot, List.splitOn_eq_singleton hfeed]
    rfl
termination_by bs.length
decreasing_by exact hshort

/-! ### What lines begin with -/

theorem encodeChar_low {c : Char} (hc : c.toNat < 0x80) : encodeChar c = [UInt8.ofNat c.toNat] :=
  if_pos hc

/-- Encoded text is decoded in front of any bytes. -/
theorem decodeChars_encoded (cs : List Char) (rest : List UInt8) :
    decodeChars (cs.flatMap encodeChar ++ rest) = cs ++ decodeChars rest := by
  induction cs with
  | nil => rfl
  | cons c cs ih =>
      rw [List.flatMap_cons, List.append_assoc]
      have hstep := step_encodeChar c (cs.flatMap encodeChar ++ rest)
      cases hbytes : encodeChar c ++ (cs.flatMap encodeChar ++ rest) with
      | nil =>
          rw [hbytes] at hstep
          cases hstep
      | cons b bs =>
          rw [hbytes] at hstep
          rw [decodeChars_cons, hstep, ih]
          rfl

/-- A character below 128 at the front is the first byte. -/
theorem eq_cons_of_decodeChars {bs : List UInt8} {c : Char} {cs : List Char} (hc : c.toNat < 0x80)
    (h : decodeChars bs = c :: cs) : ∃ rest, bs = UInt8.ofNat c.toNat :: rest ∧ decodeChars rest = cs := by
  induction bs using decodeChars_induct with
  | nil =>
      rw [decodeChars_nil] at h
      cases h
  | low b rest hb _ =>
      rw [decodeChars_low hb] at h
      obtain ⟨rfl, hrest⟩ := List.cons.inj h
      rw [toNat_charOf (UInt8.lt_iff_toNat_lt.1 hb), UInt8.ofNat_toNat]
      exact ⟨rest, rfl, hrest⟩
  | high block rest d _ hd hdecoded _ =>
      rw [hdecoded] at h
      obtain ⟨rfl, -⟩ := List.cons.inj h
      omega

/-- **Decoding keeps what lines begin with**, as far as it is text below 128. -/
theorem isPrefix_decodeChars_iff {cs : List Char} (h : IsPlain cs) (bs : List UInt8) :
    cs <+: decodeChars bs ↔ cs.flatMap encodeChar <+: bs := by
  constructor
  · induction cs generalizing bs with
    | nil => simp
    | cons c cs ih =>
        obtain ⟨hc, hcs⟩ := List.forall_mem_cons.1 h
        rintro ⟨after, hafter⟩
        obtain ⟨rest, rfl, hrest⟩ := eq_cons_of_decodeChars hc hafter.symm
        rw [List.flatMap_cons, encodeChar_low hc]
        exact List.cons_prefix_cons.2 ⟨rfl, ih hcs rest ⟨after, hrest.symm⟩⟩
  · rintro ⟨rest, rfl⟩
    exact ⟨decodeChars rest, (decodeChars_encoded cs rest).symm⟩

/-- It is the same as if the bytes were taken one by one. -/
theorem isPrefix_single_iff {cs : List Char} (h : IsPlain cs) (bs : List UInt8) :
    cs <+: single bs ↔ cs.flatMap encodeChar <+: bs := by
  induction cs generalizing bs with
  | nil => simp
  | cons c cs ih =>
      obtain ⟨hc, hcs⟩ := List.forall_mem_cons.1 h
      rw [List.flatMap_cons, encodeChar_low hc]
      cases bs with
      | nil => simp [single]
      | cons b rest =>
          have hbyte : c = charOf b.toNat ↔ UInt8.ofNat c.toNat = b := by
            constructor
            · rintro rfl
              have hb : b.toNat < 0x80 := Nat.lt_of_not_le fun hb =>
                Nat.not_le.2 hc (le_toNat_charOf hb)
              rw [toNat_charOf hb, UInt8.ofNat_toNat]
            · rintro rfl
              rw [toNat_ofNat_of_lt (by omega), charOf_toNat]
          rw [single, List.map_cons, List.cons_prefix_cons, List.singleton_append,
            List.cons_prefix_cons, hbyte]
          exact and_congr_right fun _ => ih hcs rest

/-- Bytes from 128 on become no characters below 128. -/
theorem le_of_mem_single {bs : List UInt8} (h : ∀ b ∈ bs, 0x80 ≤ b) {c : Char}
    (hc : c ∈ single bs) : 0x80 ≤ c.toNat := by
  obtain ⟨b, hb, rfl⟩ := List.mem_map.1 hc
  exact le_toNat_charOf (UInt8.le_iff_toNat_le.1 (h b hb))

end StandardsGate.Utf8
