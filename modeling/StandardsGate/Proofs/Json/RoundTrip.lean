import StandardsGate.Proofs.Json.Reading
import StandardsGate.Proofs.Json.Strings

/-!
Values that are written and read again.

A value without doubles that can be read at all is read as it was written. Of a value with doubles
everything but these is read as it was written, if anything is read: how doubles are rounded does not
matter to that.

Main definitions:

* `Json.IsWhole` — the values without doubles;
* `Json.Resembles` — the same but for doubles.

Main results:

* `Json.resembles_of_parse_pretty` — what is read of a value that was written resembles it;
* `Json.parse_pretty` — **a value without doubles is read as it was written**.
-/

namespace StandardsGate.Json

/-- The values without doubles. -/
inductive IsWhole : Json → Prop
  | null : IsWhole .null
  | bool (b : Bool) : IsWhole (.bool b)
  | int (n : Int) : IsWhole (.int n)
  | str (s : String) : IsWhole (.str s)
  | arr {items : List Json} (hitems : ∀ v ∈ items, IsWhole v) : IsWhole (.arr items)
  | obj {members : List (String × Json)} (hmembers : ∀ m ∈ members, IsWhole m.2) :
      IsWhole (.obj members)

mutual

/-- Whether a value has no doubles. -/
def isWhole : Json → Bool
  | null | bool _ | int _ | str _ => true
  | float _ => false
  | arr items => areWhole items
  | obj members => haveWhole members

/-- Whether some values have no doubles. -/
def areWhole : List Json → Bool
  | [] => true
  | v :: vs => isWhole v && areWhole vs

/-- Whether the values of some members have no doubles. -/
def haveWhole : List (String × Json) → Bool
  | [] => true
  | (_, v) :: ms => isWhole v && haveWhole ms

end

mutual

theorem isWhole_of_eq_true : ∀ {v : Json}, v.isWhole = true → IsWhole v
  | null, _ => .null
  | bool b, _ => .bool b
  | int n, _ => .int n
  | str s, _ => .str s
  | float _, h => by rw [isWhole] at h; cases h
  | arr items, h => .arr (isWhole_of_areWhole (by rwa [isWhole] at h))
  | obj members, h => .obj (isWhole_of_haveWhole (by rwa [isWhole] at h))

theorem isWhole_of_areWhole : ∀ {vs : List Json}, areWhole vs = true → ∀ v ∈ vs, IsWhole v
  | [], _ => fun _ hv => absurd hv List.not_mem_nil
  | v :: vs, h => by
      rw [areWhole, Bool.and_eq_true] at h
      exact List.forall_mem_cons.2 ⟨isWhole_of_eq_true h.1, isWhole_of_areWhole h.2⟩

theorem isWhole_of_haveWhole :
    ∀ {ms : List (String × Json)}, haveWhole ms = true → ∀ m ∈ ms, IsWhole m.2
  | [], _ => fun _ hm => absurd hm List.not_mem_nil
  | (k, v) :: ms, h => by
      rw [haveWhole, Bool.and_eq_true] at h
      exact List.forall_mem_cons.2 ⟨isWhole_of_eq_true h.1, isWhole_of_haveWhole h.2⟩

end

/-- A value and one that is the same but for doubles. Where a double stands, a number or nothing may
stand; in an array of one double nothing at all. -/
inductive Resembles : Json → Json → Prop
  | refl (v : Json) : Resembles v v
  | number (x : Double) {v : Json} (hv : IsNumber v) : Resembles (.float x) v
  | null (x : Double) : Resembles (.float x) .null
  | empty (x : Double) : Resembles (.arr [.float x]) (.arr [])
  | arr {items items' : List Json} (hitems : List.Forall₂ Resembles items items') :
      Resembles (.arr items) (.arr items')
  | obj {members members' : List (String × Json)}
      (hkeys : members'.map Prod.fst = members.map Prod.fst)
      (hvalues : List.Forall₂ Resembles (members.map Prod.snd) (members'.map Prod.snd)) :
      Resembles (.obj members) (.obj members')

/-- Values that resemble one without doubles are that value. -/
theorem Resembles.eq_of_isWhole {v : Json} (hv : IsWhole v) :
    ∀ {v' : Json}, Resembles v v' → v' = v := by
  -- lists whose items can only resemble themselves
  have hlist : ∀ {vs vs' : List Json}, (∀ v ∈ vs, ∀ {v'}, Resembles v v' → v' = v) →
      List.Forall₂ Resembles vs vs' → vs' = vs := by
    intro vs vs' ih h
    induction h with
    | nil => rfl
    | cons hv _ hvs =>
        rw [ih _ List.mem_cons_self hv, hvs fun v hv => ih v (List.mem_cons_of_mem _ hv)]
  induction hv with
  | null | bool | int | str => intro v' h; cases h; rfl
  | @arr items hitems ih =>
      intro v' h
      cases h with
      | refl => rfl
      | empty x => cases hitems _ List.mem_cons_self
      | arr h => rw [hlist ih h]
  | @obj members hmembers ih =>
      intro v' h
      cases h with
      | refl => rfl
      | @obj _ members' hkeys hvalues =>
          have hsnd : members'.map Prod.snd = members.map Prod.snd := by
            refine hlist (fun v hv => ?_) hvalues
            obtain ⟨m, hm, rfl⟩ := List.mem_map.1 hv
            exact ih m hm
          rw [(List.zip_of_prod hkeys hsnd).trans (List.zip_of_prod rfl rfl).symm]

/-! ### Blanks -/

theorem skipBlanks_of_head {cs : List Char} (h : ∀ c ∈ cs.head?, isBlank c = false) :
    skipBlanks cs = cs := by
  cases cs with
  | nil => rfl
  | cons c cs => exact List.dropWhile_cons_of_neg (by simp [h c rfl])

theorem skipBlanks_newLine (level : Nat) (cs : List Char) :
    skipBlanks (newLine level ++ cs) = skipBlanks cs := by
  have hblank : ∀ c ∈ newLine level, isBlank c = true := by
    intro c hc
    rcases List.mem_cons.1 hc with rfl | hc
    · rfl
    · obtain ⟨-, rfl⟩ := List.mem_replicate.1 hc
      rfl
  exact List.dropWhile_append_of_pos hblank

theorem skipBlanks_skipBlanks (cs : List Char) : skipBlanks (skipBlanks cs) = skipBlanks cs := by
  refine skipBlanks_of_head fun c hc => ?_
  have hhead := List.head?_dropWhile_not isBlank cs
  rw [show (cs.dropWhile isBlank).head? = some c from hc] at hhead
  exact hhead

theorem readValue_skipBlanks (fuel depth : Nat) (cs : List Char) :
    readValue fuel depth (skipBlanks cs) = readValue fuel depth cs := by
  cases fuel with
  | zero => rw [readValue, readValue]
  | succ fuel => rw [readValue, readValue, skipBlanks_skipBlanks]

theorem readValue_newLine (fuel depth level : Nat) (cs : List Char) :
    readValue fuel depth (newLine level ++ cs) = readValue fuel depth cs := by
  rw [← readValue_skipBlanks, skipBlanks_newLine, readValue_skipBlanks]

/-! ### How values begin and how they end -/

/-- Whether a text, if there is one, begins as a value does: not with a blank, and not as something
that ends or separates values. -/
def Begins (cs : List Char) : Prop :=
  ∀ c ∈ cs.head?, isBlank c = false ∧ c ≠ ',' ∧ c ≠ ']' ∧ c ≠ '\x7d'

theorem begins_digits {ds more : List Char} (hds : AllDigits ds) (hmore : Begins more) :
    Begins (ds ++ more) := by
  cases ds with
  | nil => exact hmore
  | cons d ds =>
      intro c hc
      obtain rfl : d = c := Option.some.inj hc
      have hdigit := hds d List.mem_cons_self
      refine ⟨?_, ?_, ?_, ?_⟩
      · rw [← Bool.not_eq_true]
        intro hblank
        simp only [isBlank, Bool.or_eq_true, beq_iff_eq] at hblank
        rcases hblank with ((rfl | rfl) | rfl) | rfl <;> cases hdigit
      all_goals rintro rfl; cases hdigit

theorem begins_cons {c : Char} (h : isBlank c = false ∧ c ≠ ',' ∧ c ≠ ']' ∧ c ≠ '\x7d')
    (cs : List Char) : Begins (c :: cs) := by
  intro c' hc
  obtain rfl : c = c' := Option.some.inj hc
  exact h

theorem begins_of_hasNumberForm {cs : List Char} (h : HasNumberForm cs) : Begins cs := by
  obtain ⟨whole, fraction, exponent, rfl, hwhole, hfraction, hexponent⟩ := h.parts
  refine begins_digits hwhole ?_
  rcases hfraction with rfl | ⟨ds, rfl, -⟩
  · rcases hexponent with rfl | ⟨sign, ds, rfl, -⟩
    · exact fun c hc => absurd hc (by simp)
    · exact begins_cons (by decide) _
  · exact begins_cons (by decide) _

theorem toString_int (n : Int) :
    (∃ m : Nat, n = m ∧ (toString n).toList = Nat.toDigits 10 m) ∨
      ∃ m : Nat, n = -(m + 1 : Nat) ∧ (toString n).toList = '-' :: Nat.toDigits 10 (m + 1) := by
  cases n with
  | ofNat m => exact .inl ⟨m, rfl, by simp [toString, Int.repr]⟩
  | negSucc m => exact .inr ⟨m, rfl, by simp [toString, Int.repr]⟩

/-- How what is written of a value begins. -/
theorem begins_prettyChars (level : Nat) (v : Json) : Begins (prettyChars level v) := by
  cases v with
  | null => exact begins_cons (by decide) _
  | bool b => cases b <;> exact begins_cons (by decide) _
  | str s => exact begins_cons (by decide) _
  | int n =>
      rw [prettyChars]
      rcases toString_int n with ⟨m, -, hm⟩ | ⟨m, -, hm⟩
      · rw [hm, ← List.append_nil (Nat.toDigits 10 m)]
        exact begins_digits (fun c => HunkHeader.isDigit_of_mem_toDigits) fun c hc => by cases hc
      · rw [hm]
        exact begins_cons (by decide) _
  | float x =>
      rw [prettyChars]
      rcases floatText_form x with h | h | ⟨cs, h, -⟩
      · rw [h]
        exact begins_cons (by decide) _
      · exact begins_of_hasNumberForm h
      · rw [h]
        exact begins_cons (by decide) _
  | arr items => cases items <;> rw [prettyChars] <;> exact begins_cons (by decide) _
  | obj members => cases members <;> rw [prettyChars] <;> exact begins_cons (by decide) _

/-- Only of a double nothing might be written. -/
theorem eq_float_of_prettyChars_eq_nil {level : Nat} {v : Json} (h : prettyChars level v = []) :
    ∃ x, v = .float x := by
  cases v with
  | float x => exact ⟨x, rfl⟩
  | null => cases h
  | bool b => cases b <;> cases h
  | str s => cases h
  | int n =>
      rw [prettyChars] at h
      rcases toString_int n with ⟨m, -, hm⟩ | ⟨m, -, hm⟩
      · rw [hm] at h
        exact absurd h Nat.toDigits_ne_nil
      · rw [hm] at h
        cases h
  | arr items => cases items <;> rw [prettyChars] at h <;> cases h
  | obj members => cases members <;> rw [prettyChars] at h <;> cases h

/-- Whether a text is what stands behind a value that is written: nothing, or, perhaps on a new line,
a comma or a closing bracket. -/
structure Behind (rest : List Char) : Prop where
  ends : EndsValue rest
  closes : ∀ c ∈ (skipBlanks rest).head?, c = ',' ∨ c = ']' ∨ c = '\x7d'

theorem behind_nil : Behind [] := by
  refine ⟨fun c hc => ?_, fun c hc => ?_⟩ <;> cases hc

theorem behind_comma (rest : List Char) : Behind (',' :: rest) := by
  refine ⟨fun c hc => ?_, fun c hc => ?_⟩
  · cases hc
    exact .inl rfl
  · cases hc
    exact .inl rfl

theorem behind_newLine {c : Char} (hc : c = ']' ∨ c = '\x7d') (level : Nat) (rest : List Char) :
    Behind (newLine level ++ c :: rest) := by
  refine ⟨fun c hc => ?_, fun d hd => ?_⟩
  · cases hc
    exact .inr rfl
  · rw [skipBlanks_newLine] at hd
    rcases hc with rfl | rfl
    · cases hd
      exact .inr (.inl rfl)
    · cases hd
      exact .inr (.inr rfl)

/-! ### Single values -/

theorem skipBlanks_of_begins {cs : List Char} (h : Begins cs) : skipBlanks cs = cs :=
  skipBlanks_of_head fun c hc => (h c hc).1

theorem readValue_zero (depth : Nat) (cs : List Char) :
    readValue 0 depth cs = .error .unfinished := by
  rw [readValue]

theorem readValue_digit {c : Char} (hc : c.isDigit = true) (fuel depth : Nat) (cs : List Char) :
    readValue (fuel + 1) depth (c :: cs) = readNumber false (c :: cs) := by
  have hdigit : AllDigits [c] := fun d hd => List.mem_singleton.1 hd ▸ hc
  have hnil : Begins [] := fun d hd => by cases hd
  have hbegins : Begins (c :: cs) := begins_cons (begins_digits hdigit hnil c rfl) cs
  rw [readValue, skipBlanks_of_begins hbegins]
  split <;> rename_i heq <;> cases heq <;> first | cases hc | skip
  rw [if_pos hc]

theorem readValue_minus (fuel depth : Nat) (cs : List Char) :
    readValue (fuel + 1) depth ('-' :: cs) = readNumber true cs := by
  rw [readValue]
  rfl

theorem readValue_eq_error {cs : List Char}
    (h : ∀ c ∈ (skipBlanks cs).head?, c ∈ [',', ']', '\x7d', '.', 'e']) (fuel depth : Nat) :
    ∃ e, readValue fuel depth cs = .error e := by
  cases fuel with
  | zero => exact ⟨_, readValue_zero depth cs⟩
  | succ fuel =>
      rw [readValue]
      cases hcs : skipBlanks cs with
      | nil => exact ⟨_, rfl⟩
      | cons c cs =>
          have hc := h c (by rw [hcs]; rfl)
          simp only [List.mem_cons, List.not_mem_nil, or_false] at hc
          rcases hc with rfl | rfl | rfl | rfl | rfl <;> exact ⟨_, rfl⟩

/-- What is read of a value where it was written, so many levels being allowed: something that
resembles it, and if it has no doubles, there is fuel enough for it. -/
structure ReadBack (depth : Nat) (v : Json) : Prop where
  read : ∀ {level fuel rest v' rest'}, Behind rest →
    readValue fuel depth (prettyChars level v ++ rest) = .ok (v', rest') →
    rest' = rest ∧ Resembles v v'
  exists_read : IsWhole v → ∀ {level fuel rest}, Behind rest →
    (prettyChars level v).length < fuel →
    ∃ r, readValue fuel depth (prettyChars level v ++ rest) = .ok r

theorem ReadBack.of_eq {depth : Nat} {v : Json}
    (h : ∀ level fuel rest, Behind rest →
      readValue (fuel + 1) depth (prettyChars level v ++ rest) = .ok (v, rest)) :
    ReadBack depth v := by
  refine ⟨fun {level fuel rest v' rest'} hrest hread => ?_,
    fun _ {level fuel rest} hrest hfuel => ?_⟩
  · cases fuel with
    | zero =>
        rw [readValue_zero] at hread
        cases hread
    | succ fuel =>
        rw [h level fuel rest hrest] at hread
        cases hread
        exact ⟨rfl, .refl v⟩
  · obtain ⟨fuel, rfl⟩ := Nat.exists_eq_succ_of_ne_zero (by omega : fuel ≠ 0)
    exact ⟨_, h level fuel rest hrest⟩

theorem wholeOf_toDigits {m : Nat} (hm : m ≤ maxUnsigned) :
    wholeOf false (Nat.toDigits 10 m) = .ok (.int m) := by
  unfold wholeOf
  rw [HunkHeader.decimalValue_toDigits, if_neg Bool.false_ne_true]
  exact if_pos hm

theorem wholeOf_toDigits_neg {m : Nat} (hpos : 0 < m) (hm : m ≤ UInt64.size / 2) :
    wholeOf true (Nat.toDigits 10 m) = .ok (.int (-m)) := by
  unfold wholeOf
  rw [HunkHeader.decimalValue_toDigits, if_pos rfl]
  exact if_pos (by simp [hpos, hm])

theorem readValue_int {n : Int} (hn : IsWholeNumber n) {rest : List Char} (hrest : EndsNumber rest)
    (fuel depth : Nat) :
    readValue (fuel + 1) depth ((toString n).toList ++ rest) = .ok (.int n, rest) := by
  rcases toString_int n with ⟨m, rfl, hm⟩ | ⟨m, rfl, hm⟩
  · have hread : readValue (fuel + 1) depth (Nat.toDigits 10 m ++ rest) =
        readNumber false (Nat.toDigits 10 m ++ rest) := by
      cases hds : Nat.toDigits 10 m with
      | nil => exact absurd hds Nat.toDigits_ne_nil
      | cons d ds =>
          have hd : d ∈ Nat.toDigits 10 m := hds ▸ List.mem_cons_self
          exact readValue_digit (HunkHeader.isDigit_of_mem_toDigits hd) fuel depth _
    rw [hm, hread, readNumber_digits hrest, wholeOf_toDigits (Int.ofNat_le.1 hn.2)]
    rfl
  · have hle : m + 1 ≤ UInt64.size / 2 := Int.ofNat_le.1 (Int.neg_le_neg_iff.1 hn.1)
    rw [hm, List.cons_append, readValue_minus, readNumber_digits hrest,
      wholeOf_toDigits_neg (Nat.succ_pos m) hle]
    rfl

theorem readValue_null (fuel depth : Nat) (rest : List Char) :
    readValue (fuel + 1) depth ("null".toList ++ rest) = .ok (.null, rest) := by
  rw [readValue]
  rfl

theorem readValue_bool (b : Bool) (fuel depth : Nat) (rest : List Char) :
    readValue (fuel + 1) depth ((if b then "true" else "false").toList ++ rest) =
      .ok (.bool b, rest) := by
  cases b <;> rw [readValue] <;> rfl

theorem readValue_quote (s : String) (fuel depth : Nat) (rest : List Char) :
    readValue (fuel + 1) depth (quote s ++ rest) = .ok (.str s, rest) := by
  have hquote : quote s ++ rest = '"' :: (s.toList.flatMap escapeChar ++ '"' :: rest) := by
    simp [quote]
  rw [hquote, readValue]
  change (readString [] _ >>= _) = _
  rw [readString_quote]
  rfl

theorem ReadBack.int {depth : Nat} {n : Int} (hn : IsWholeNumber n) : ReadBack depth (.int n) := by
  refine .of_eq fun level fuel rest hrest => ?_
  rw [prettyChars]
  exact readValue_int hn hrest.ends.endsNumber fuel depth

/-- A text of the form of a number begins with a digit, a point or an exponent. -/
theorem HasNumberForm.head {c : Char} {cs : List Char} (h : HasNumberForm (c :: cs)) :
    c.isDigit = true ∨ c = '.' ∨ c = 'e' := by
  obtain ⟨whole, fraction, exponent, heq, hwhole, hfraction, hexponent⟩ := h.parts
  cases whole with
  | cons d ds =>
      obtain ⟨rfl, -⟩ := List.cons.inj heq
      exact .inl (hwhole c List.mem_cons_self)
  | nil =>
      rw [List.nil_append] at heq
      rcases hfraction with rfl | ⟨ds, rfl, -⟩
      · rcases hexponent with rfl | ⟨sign, ds, rfl, -⟩
        · cases heq
        · exact .inr (.inr (List.cons.inj heq).1)
      · exact .inr (.inl (List.cons.inj heq).1)

theorem ReadBack.float (depth : Nat) (x : Double) : ReadBack depth (.float x) := by
  refine ⟨fun {level fuel rest v' rest'} hrest hread => ?_, fun h => by cases h⟩
  have hno : ∀ {cs}, (∀ c ∈ (skipBlanks cs).head?, c ∈ [',', ']', '\x7d', '.', 'e']) →
      readValue fuel depth cs ≠ .ok (v', rest') := by
    intro cs hcs h
    obtain ⟨e, he⟩ := readValue_eq_error hcs fuel depth
    cases he.symm.trans h
  obtain ⟨fuel, rfl⟩ : ∃ n, fuel = n + 1 := by
    cases fuel with
    | zero =>
        rw [readValue_zero] at hread
        cases hread
    | succ n => exact ⟨n, rfl⟩
  rw [prettyChars] at hread
  rcases floatText_form x with h | h | ⟨cs, h, hform⟩
  · rw [h, readValue] at hread
    cases hread
    exact ⟨rfl, .null x⟩
  · cases hcs : floatText x with
    | nil =>
        rw [hcs] at hread
        refine absurd hread (hno fun c hc => ?_)
        rcases hrest.closes c hc with rfl | rfl | rfl <;> decide
    | cons c cs =>
        rw [hcs] at h hread
        rcases h.head with hc | hc
        · rw [List.cons_append, readValue_digit hc, ← List.cons_append] at hread
          exact ⟨rest_of_readNumber h hrest.ends.endsNumber hread,
            .number x (isNumber_of_readNumber hread)⟩
        · refine absurd hread (hno fun d hd => ?_)
          rcases hc with rfl | rfl <;> cases hd <;> decide
  · rw [h, List.cons_append, readValue_minus] at hread
    exact ⟨rest_of_readNumber hform hrest.ends.endsNumber hread,
      .number x (isNumber_of_readNumber hread)⟩

/-! ### Arrays and objects -/

theorem readItems_skipBlanks (fuel depth : Nat) (acc : List Json) (cs : List Char) :
    readItems fuel depth acc (skipBlanks cs) = readItems fuel depth acc cs := by
  cases fuel with
  | zero => rw [readItems, readItems]
  | succ fuel => rw [readItems, readItems, readValue_skipBlanks]

theorem readMembers_skipBlanks (fuel depth : Nat) (acc : List (String × Json)) (cs : List Char) :
    readMembers fuel depth acc (skipBlanks cs) = readMembers fuel depth acc cs := by
  cases fuel with
  | zero => rw [readMembers, readMembers]
  | succ fuel => rw [readMembers, readMembers, skipBlanks_skipBlanks]

theorem skipBlanks_comma (cs : List Char) : skipBlanks (',' :: cs) = ',' :: cs := rfl

theorem readValue_blank (fuel depth : Nat) (cs : List Char) :
    readValue fuel depth (' ' :: cs) = readValue fuel depth cs := by
  rw [← readValue_skipBlanks, ← readValue_skipBlanks fuel depth cs]
  rfl

theorem skipBlanks_newLine_bracket (level : Nat) (cs : List Char) :
    skipBlanks (newLine level ++ ']' :: cs) = ']' :: cs := skipBlanks_newLine level _

theorem skipBlanks_newLine_brace (level : Nat) (cs : List Char) :
    skipBlanks (newLine level ++ '\x7d' :: cs) = '\x7d' :: cs := skipBlanks_newLine level _

section Items

variable {fuel depth level : Nat} {acc : List Json} {v w : Json} {cs rest : List Char}

theorem prettyItems_append_singleton :
    prettyItems level [v] ++ rest =
      newLine (level + 1) ++ (prettyChars (level + 1) v ++ (newLine level ++ ']' :: rest)) := by
  rw [prettyItems]
  simp

theorem prettyItems_append_cons {ws : List Json} :
    prettyItems level (v :: w :: ws) ++ rest = newLine (level + 1) ++
      (prettyChars (level + 1) v ++ ',' :: (prettyItems level (w :: ws) ++ rest)) := by
  rw [prettyItems]
  · simp
  · simp

theorem exists_of_readItems {r : Json × List Char}
    (h : readItems (fuel + 1) depth acc (newLine level ++ cs) = .ok r) :
    ∃ p, readValue fuel depth cs = .ok p := by
  rw [readItems, readValue_newLine] at h
  obtain ⟨p, hp, -⟩ := exists_of_bind_eq_ok h
  exact ⟨p, hp⟩

theorem readItems_comma (hv : readValue fuel depth cs = .ok (v, ',' :: rest)) :
    readItems (fuel + 1) depth acc (newLine level ++ cs) = readItems fuel depth (v :: acc) rest := by
  rw [readItems, readValue_newLine, hv]
  rfl

theorem readItems_bracket {level' : Nat}
    (hv : readValue fuel depth cs = .ok (v, newLine level' ++ ']' :: rest)) :
    readItems (fuel + 1) depth acc (newLine level ++ cs) = .ok (.arr (v :: acc).reverse, rest) := by
  rw [readItems, readValue_newLine, hv]
  dsimp only [Bind.bind, Except.bind]
  rw [skipBlanks_newLine_bracket]
  rfl

end Items

/-- What is read of an array's items where they were written. -/
theorem resembles_of_readItems {depth level : Nat} {items : List Json} (hne : items ≠ [])
    (hitems : ∀ v ∈ items, ReadBack depth v) {rest rest' : List Char} {v' : Json} :
    ∀ {fuel : Nat} {acc : List Json},
      readItems fuel depth acc (prettyItems level items ++ rest) = .ok (v', rest') →
      rest' = rest ∧ ∃ items', v' = .arr (acc.reverse ++ items') ∧
        List.Forall₂ Resembles items items' := by
  induction items with
  | nil => exact absurd rfl hne
  | cons v items ih =>
      obtain ⟨hv, hitems⟩ := List.forall_mem_cons.1 hitems
      intro fuel acc h
      cases fuel with
      | zero =>
          rw [readItems] at h
          cases h
      | succ fuel =>
          cases items with
          | nil =>
              rw [prettyItems_append_singleton] at h
              obtain ⟨⟨w, more⟩, hw⟩ := exists_of_readItems h
              obtain ⟨rfl, hresembles⟩ := hv.read (behind_newLine (.inl rfl) level rest) hw
              rw [readItems_bracket hw] at h
              cases h
              exact ⟨rfl, [w], by rw [List.reverse_cons], .cons hresembles .nil⟩
          | cons w ws =>
              rw [prettyItems_append_cons] at h
              obtain ⟨⟨w', more⟩, hw⟩ := exists_of_readItems h
              obtain ⟨rfl, hresembles⟩ := hv.read (behind_comma _) hw
              rw [readItems_comma hw] at h
              obtain ⟨hrest, items', hv', hitems'⟩ := ih (List.cons_ne_nil w ws) hitems h
              refine ⟨hrest, w' :: items', ?_, .cons hresembles hitems'⟩
              rw [hv', List.reverse_cons, List.append_assoc, List.singleton_append]

theorem exists_readItems {depth level : Nat} {items : List Json} (hne : items ≠ [])
    (hitems : ∀ v ∈ items, ReadBack depth v) (hwhole : ∀ v ∈ items, IsWhole v)
    (rest : List Char) :
    ∀ {fuel : Nat} {acc : List Json}, (prettyItems level items).length < fuel →
      ∃ r, readItems fuel depth acc (prettyItems level items ++ rest) = .ok r := by
  induction items with
  | nil => exact absurd rfl hne
  | cons v items ih =>
      obtain ⟨hv, hitems⟩ := List.forall_mem_cons.1 hitems
      obtain ⟨hv', hwhole⟩ := List.forall_mem_cons.1 hwhole
      intro fuel acc hfuel
      obtain ⟨fuel, rfl⟩ := Nat.exists_eq_succ_of_ne_zero (by omega : fuel ≠ 0)
      cases items with
      | nil =>
          have hshort : (prettyChars (level + 1) v).length < fuel := by
            have hlength := congrArg List.length
              (@prettyItems_append_singleton level v [])
            simp only [List.length_append, newLine, List.length_cons] at hlength
            omega
          have hbehind := behind_newLine (.inl rfl) level rest (c := ']')
          obtain ⟨⟨w, more⟩, hw⟩ := hv.exists_read hv' hbehind hshort
          obtain ⟨rfl, -⟩ := hv.read hbehind hw
          exact ⟨_, (congrArg _ prettyItems_append_singleton).trans (readItems_bracket hw)⟩
      | cons w ws =>
          have hshort : (prettyChars (level + 1) v).length < fuel ∧
              (prettyItems level (w :: ws)).length < fuel := by
            have hlength := congrArg List.length
              (@prettyItems_append_cons level v w [] ws)
            simp only [List.length_append, newLine, List.length_cons] at hlength
            omega
          obtain ⟨⟨w', more⟩, hw⟩ := hv.exists_read hv' (behind_comma _) hshort.1
          obtain ⟨rfl, -⟩ := hv.read (behind_comma _) hw
          obtain ⟨r, hr⟩ := @ih (List.cons_ne_nil w ws) hitems hwhole fuel (w' :: acc) hshort.2
          exact ⟨r, (congrArg _ prettyItems_append_cons).trans ((readItems_comma hw).trans hr)⟩

section Members

variable {fuel depth level : Nat} {acc : List (String × Json)} {k : String} {m m' : String × Json}
  {v : Json} {cs rest : List Char}

theorem prettyMembers_append_singleton :
    prettyMembers level [m] ++ rest = newLine (level + 1) ++ (quote m.1 ++ ':' :: ' ' ::
      (prettyChars (level + 1) m.2 ++ (newLine level ++ '\x7d' :: rest))) := by
  rw [prettyMembers]
  simp

theorem prettyMembers_append_cons {ms : List (String × Json)} :
    prettyMembers level (m :: m' :: ms) ++ rest = newLine (level + 1) ++ (quote m.1 ++ ':' :: ' ' ::
      (prettyChars (level + 1) m.2 ++ ',' :: (prettyMembers level (m' :: ms) ++ rest))) := by
  rw [prettyMembers]
  · simp
  · simp

theorem skipBlanks_quote :
    skipBlanks (newLine level ++ (quote k ++ ':' :: ' ' :: cs)) =
      '"' :: (k.toList.flatMap escapeChar ++ '"' :: ':' :: ' ' :: cs) := by
  rw [skipBlanks_newLine]
  simp [quote, skipBlanks, isBlank]

theorem exists_of_readMembers {r : Json × List Char}
    (h : readMembers (fuel + 1) depth acc (newLine level ++ (quote k ++ ':' :: ' ' :: cs)) = .ok r) :
    ∃ p, readValue fuel depth cs = .ok p := by
  rw [readMembers, skipBlanks_quote] at h
  change (readString [] _ >>= _) = _ at h
  rw [readString_quote] at h
  change (readValue fuel depth (' ' :: cs) >>= _) = _ at h
  rw [readValue_blank] at h
  obtain ⟨p, hp, -⟩ := exists_of_bind_eq_ok h
  exact ⟨p, hp⟩

theorem readMembers_comma (hv : readValue fuel depth cs = .ok (v, ',' :: rest)) :
    readMembers (fuel + 1) depth acc (newLine level ++ (quote k ++ ':' :: ' ' :: cs)) =
      readMembers fuel depth ((k, v) :: acc) rest := by
  rw [readMembers, skipBlanks_quote]
  change (readString [] _ >>= _) = _
  rw [readString_quote]
  change (readValue fuel depth (' ' :: cs) >>= _) = _
  rw [readValue_blank, hv]
  rfl

theorem readMembers_brace {level' : Nat}
    (hv : readValue fuel depth cs = .ok (v, newLine level' ++ '\x7d' :: rest)) :
    readMembers (fuel + 1) depth acc (newLine level ++ (quote k ++ ':' :: ' ' :: cs)) =
      .ok (.ofMembers ((k, v) :: acc).reverse, rest) := by
  rw [readMembers, skipBlanks_quote]
  change (readString [] _ >>= _) = _
  rw [readString_quote]
  change (readValue fuel depth (' ' :: cs) >>= _) = _
  rw [readValue_blank, hv]
  dsimp only [Bind.bind, Except.bind]
  rw [skipBlanks_newLine_brace]
  rfl

end Members

/-- What is read of an object's members where they were written. -/
theorem resembles_of_readMembers {depth level : Nat} {members : List (String × Json)}
    (hne : members ≠ []) (hmembers : ∀ m ∈ members, ReadBack depth m.2) {rest rest' : List Char}
    {v' : Json} :
    ∀ {fuel : Nat} {acc : List (String × Json)},
      readMembers fuel depth acc (prettyMembers level members ++ rest) = .ok (v', rest') →
      rest' = rest ∧ ∃ members', v' = .ofMembers (acc.reverse ++ members') ∧
        members'.map Prod.fst = members.map Prod.fst ∧
        List.Forall₂ Resembles (members.map Prod.snd) (members'.map Prod.snd) := by
  induction members with
  | nil => exact absurd rfl hne
  | cons m members ih =>
      obtain ⟨hm, hmembers⟩ := List.forall_mem_cons.1 hmembers
      intro fuel acc h
      cases fuel with
      | zero =>
          rw [readMembers] at h
          cases h
      | succ fuel =>
          cases members with
          | nil =>
              rw [prettyMembers_append_singleton] at h
              obtain ⟨⟨w, more⟩, hw⟩ := exists_of_readMembers h
              obtain ⟨rfl, hresembles⟩ := hm.read (behind_newLine (.inr rfl) level rest) hw
              rw [readMembers_brace hw] at h
              cases h
              exact ⟨rfl, [(m.1, w)], by rw [List.reverse_cons], rfl, .cons hresembles .nil⟩
          | cons m' ms =>
              rw [prettyMembers_append_cons] at h
              obtain ⟨⟨w, more⟩, hw⟩ := exists_of_readMembers h
              obtain ⟨rfl, hresembles⟩ := hm.read (behind_comma _) hw
              rw [readMembers_comma hw] at h
              obtain ⟨hrest, members', hv', hkeys, hvalues⟩ := ih (List.cons_ne_nil m' ms) hmembers h
              refine ⟨hrest, (m.1, w) :: members', ?_, ?_, .cons hresembles hvalues⟩
              · rw [hv', List.reverse_cons, List.append_assoc, List.singleton_append]
              · rw [List.map_cons, hkeys]
                rfl

theorem exists_readMembers {depth level : Nat} {members : List (String × Json)}
    (hne : members ≠ []) (hmembers : ∀ m ∈ members, ReadBack depth m.2)
    (hwhole : ∀ m ∈ members, IsWhole m.2) (rest : List Char) :
    ∀ {fuel : Nat} {acc : List (String × Json)}, (prettyMembers level members).length < fuel →
      ∃ r, readMembers fuel depth acc (prettyMembers level members ++ rest) = .ok r := by
  induction members with
  | nil => exact absurd rfl hne
  | cons m members ih =>
      obtain ⟨hm, hmembers⟩ := List.forall_mem_cons.1 hmembers
      obtain ⟨hm', hwhole⟩ := List.forall_mem_cons.1 hwhole
      intro fuel acc hfuel
      obtain ⟨fuel, rfl⟩ := Nat.exists_eq_succ_of_ne_zero (by omega : fuel ≠ 0)
      cases members with
      | nil =>
          have hshort : (prettyChars (level + 1) m.2).length < fuel := by
            have hlength := congrArg List.length (@prettyMembers_append_singleton level m [])
            simp only [List.length_append, newLine, List.length_cons] at hlength
            omega
          have hbehind := behind_newLine (.inr rfl) level rest (c := '\x7d')
          obtain ⟨⟨w, more⟩, hw⟩ := hm.exists_read hm' hbehind hshort
          obtain ⟨rfl, -⟩ := hm.read hbehind hw
          exact ⟨_, (congrArg _ prettyMembers_append_singleton).trans (readMembers_brace hw)⟩
      | cons m' ms =>
          have hshort : (prettyChars (level + 1) m.2).length < fuel ∧
              (prettyMembers level (m' :: ms)).length < fuel := by
            have hlength := congrArg List.length (@prettyMembers_append_cons level m m' [] ms)
            simp only [List.length_append, newLine, List.length_cons] at hlength
            omega
          obtain ⟨⟨w, more⟩, hw⟩ := hm.exists_read hm' (behind_comma _) hshort.1
          obtain ⟨rfl, -⟩ := hm.read (behind_comma _) hw
          obtain ⟨r, hr⟩ :=
            @ih (List.cons_ne_nil m' ms) hmembers hwhole fuel ((m.1, w) :: acc) hshort.2
          exact ⟨r, (congrArg _ prettyMembers_append_cons).trans ((readMembers_comma hw).trans hr)⟩

/-! ### Values -/

theorem readValue_bracket {depth : Nat} (hdepth : 1 < depth) (fuel : Nat) {cs : List Char}
    (h : ∀ c ∈ (skipBlanks cs).head?, c ≠ ']') :
    readValue (fuel + 1) depth ('[' :: cs) = readItems fuel (depth - 1) [] cs := by
  rw [readValue]
  change (if depth ≤ 1 then _ else _) = _
  rw [if_neg (Nat.not_le.2 hdepth)]
  split
  · rename_i heq
    exact absurd rfl (h ']' (by rw [heq]; rfl))
  · exact readItems_skipBlanks fuel (depth - 1) [] cs

theorem readValue_brace {depth : Nat} (hdepth : 1 < depth) (fuel : Nat) {cs : List Char}
    (h : ∀ c ∈ (skipBlanks cs).head?, c ≠ '\x7d') :
    readValue (fuel + 1) depth ('\x7b' :: cs) = readMembers fuel (depth - 1) [] cs := by
  rw [readValue]
  change (if depth ≤ 1 then _ else _) = _
  rw [if_neg (Nat.not_le.2 hdepth)]
  split
  · rename_i heq
    exact absurd rfl (h '\x7d' (by rw [heq]; rfl))
  · exact readMembers_skipBlanks fuel (depth - 1) [] cs

theorem readValue_empty {depth : Nat} (hdepth : 1 < depth) (fuel : Nat) {cs rest : List Char}
    (h : skipBlanks cs = ']' :: rest) :
    readValue (fuel + 1) depth ('[' :: cs) = .ok (.arr [], rest) := by
  rw [readValue]
  change (if depth ≤ 1 then _ else _) = _
  rw [if_neg (Nat.not_le.2 hdepth), h]
  rfl

/-- How the items of an array begin: with a value, unless there is one double only of which nothing
is written. -/
theorem skipBlanks_prettyItems (level : Nat) (v : Json) (vs : List Json) (rest : List Char) :
    (∀ c ∈ (skipBlanks (prettyItems level (v :: vs) ++ rest)).head?, c ≠ ']') ∨
      (∃ x, v = .float x) ∧ vs = [] ∧
        skipBlanks (prettyItems level (v :: vs) ++ rest) = ']' :: rest := by
  have hbegins := begins_prettyChars (level + 1) v
  cases vs with
  | nil =>
      rw [prettyItems_append_singleton, skipBlanks_newLine]
      cases htext : prettyChars (level + 1) v with
      | nil =>
          exact .inr ⟨eq_float_of_prettyChars_eq_nil htext, rfl, skipBlanks_newLine_bracket level rest⟩
      | cons c cs =>
          refine .inl fun d hd => ?_
          have hc := (htext ▸ hbegins) c rfl
          rw [List.cons_append, skipBlanks_of_begins (begins_cons hc _)] at hd
          cases hd
          exact hc.2.2.1
  | cons w ws =>
      rw [prettyItems_append_cons, skipBlanks_newLine]
      refine .inl fun d hd => ?_
      cases htext : prettyChars (level + 1) v with
      | nil =>
          rw [htext, List.nil_append, skipBlanks_comma] at hd
          cases hd
          decide
      | cons c cs =>
          have hc := (htext ▸ hbegins) c rfl
          rw [htext, List.cons_append, skipBlanks_of_begins (begins_cons hc _)] at hd
          cases hd
          exact hc.2.2.1

theorem skipBlanks_prettyMembers (level : Nat) (m : String × Json) (ms : List (String × Json))
    (rest : List Char) :
    ∀ c ∈ (skipBlanks (prettyMembers level (m :: ms) ++ rest)).head?, c ≠ '\x7d' := by
  intro c hc
  cases ms with
  | nil =>
      rw [prettyMembers_append_singleton, skipBlanks_quote] at hc
      cases hc
      decide
  | cons m' ms =>
      rw [prettyMembers_append_cons, skipBlanks_quote] at hc
      cases hc
      decide

theorem ReadBack.arr {depth : Nat} {items : List Json} (hdepth : 1 < depth)
    (hitems : ∀ v ∈ items, ReadBack (depth - 1) v) : ReadBack depth (.arr items) := by
  cases items with
  | nil =>
      refine .of_eq fun level fuel rest _ => ?_
      rw [prettyChars]
      exact readValue_empty hdepth fuel rfl
  | cons v vs =>
      refine ⟨fun {level fuel rest v' rest'} _ hread => ?_,
        fun hwhole {level fuel rest} _ hfuel => ?_⟩
      · cases fuel with
        | zero =>
            rw [readValue_zero] at hread
            cases hread
        | succ fuel =>
            rw [prettyChars, List.cons_append] at hread
            rcases skipBlanks_prettyItems level v vs rest with hhead | ⟨⟨x, rfl⟩, rfl, hempty⟩
            · rw [readValue_bracket hdepth fuel hhead] at hread
              obtain ⟨hrest, items', rfl, hitems'⟩ :=
                resembles_of_readItems (List.cons_ne_nil v vs) hitems hread
              exact ⟨hrest, .arr hitems'⟩
            · rw [readValue_empty hdepth fuel hempty] at hread
              cases hread
              exact ⟨rfl, .empty x⟩
      · cases hwhole with
        | arr hwhole =>
            obtain ⟨fuel, rfl⟩ := Nat.exists_eq_succ_of_ne_zero (by omega : fuel ≠ 0)
            rw [prettyChars, List.length_cons] at hfuel
            rw [prettyChars, List.cons_append]
            rcases skipBlanks_prettyItems level v vs rest with hhead | ⟨⟨x, rfl⟩, -, -⟩
            · rw [readValue_bracket hdepth fuel hhead]
              exact exists_readItems (List.cons_ne_nil v vs) hitems hwhole rest
                (Nat.lt_of_succ_lt_succ hfuel)
            · cases hwhole _ List.mem_cons_self

theorem ReadBack.obj {depth : Nat} {members : List (String × Json)} (hdepth : 1 < depth)
    (hsorted : members.Pairwise fun a b => a.1 < b.1)
    (hmembers : ∀ m ∈ members, ReadBack (depth - 1) m.2) : ReadBack depth (.obj members) := by
  cases members with
  | nil =>
      refine .of_eq fun level fuel rest _ => ?_
      rw [prettyChars, List.cons_append, readValue]
      exact if_neg (Nat.not_le.2 hdepth)
  | cons m ms =>
      refine ⟨fun {level fuel rest v' rest'} _ hread => ?_,
        fun hwhole {level fuel rest} _ hfuel => ?_⟩
      · cases fuel with
        | zero =>
            rw [readValue_zero] at hread
            cases hread
        | succ fuel =>
            rw [prettyChars, List.cons_append,
              readValue_brace hdepth fuel (skipBlanks_prettyMembers level m ms rest)] at hread
            obtain ⟨hrest, members', rfl, hkeys, hvalues⟩ :=
              resembles_of_readMembers (List.cons_ne_nil m ms) hmembers hread
            have hsorted' : members'.Pairwise fun a b => a.1 < b.1 := by
              rw [← List.pairwise_map (f := Prod.fst) (R := fun a b => a < b)] at hsorted ⊢
              rw [hkeys]
              exact hsorted
            refine ⟨hrest, ?_⟩
            rw [List.reverse_nil, List.nil_append, ofMembers,
              SortedMap.entries_ofList_of_ascending hsorted']
            exact .obj hkeys hvalues
      · cases hwhole with
        | obj hwhole =>
            obtain ⟨fuel, rfl⟩ := Nat.exists_eq_succ_of_ne_zero (by omega : fuel ≠ 0)
            rw [prettyChars, List.length_cons] at hfuel
            rw [prettyChars, List.cons_append,
              readValue_brace hdepth fuel (skipBlanks_prettyMembers level m ms rest)]
            exact exists_readMembers (List.cons_ne_nil m ms) hmembers hwhole rest
              (Nat.lt_of_succ_lt_succ hfuel)

/-- A value that can be read is read where it was written. -/
theorem Readable.readBack {depth : Nat} {v : Json} (h : Readable depth v) : ReadBack depth v := by
  induction h with
  | null depth =>
      refine .of_eq fun level fuel rest _ => ?_
      rw [prettyChars]
      exact readValue_null fuel depth rest
  | bool depth b =>
      refine .of_eq fun level fuel rest _ => ?_
      rw [prettyChars]
      exact readValue_bool b fuel depth rest
  | int hn => exact .int hn
  | float depth x => exact .float depth x
  | str depth s =>
      refine .of_eq fun level fuel rest _ => ?_
      rw [prettyChars]
      exact readValue_quote s fuel depth rest
  | arr hdepth _ ih => exact .arr hdepth ih
  | obj hdepth hsorted _ ih => exact .obj hdepth hsorted ih

/-- What is read of a value that was written resembles it. -/
theorem resembles_of_parse_pretty {v v' : Json} (hv : Readable depthLimit v)
    (h : parse v.pretty = .ok v') : Resembles v v' := by
  unfold parse parseChars pretty at h
  rw [String.toList_ofList] at h
  obtain ⟨⟨w, rest⟩, hw, h⟩ := exists_of_bind_eq_ok h
  rw [← List.append_nil (prettyChars 0 v)] at hw
  obtain ⟨rfl, hresembles⟩ := hv.readBack.read behind_nil hw
  cases h
  exact hresembles

/-- **A value without doubles is read as it was written.** -/
theorem parse_pretty {v : Json} (hv : Readable depthLimit v) (hwhole : IsWhole v) :
    parse v.pretty = .ok v := by
  have hfuel : (prettyChars 0 v).length < 2 * (prettyChars 0 v).length + 2 := by omega
  obtain ⟨⟨w, rest⟩, hw⟩ := hv.readBack.exists_read hwhole behind_nil hfuel
  obtain ⟨rfl, hresembles⟩ := hv.readBack.read behind_nil hw
  obtain rfl := hresembles.eq_of_isWhole hwhole
  rw [List.append_nil] at hw
  unfold parse parseChars pretty
  rw [String.toList_ofList, hw]
  rfl

end StandardsGate.Json
