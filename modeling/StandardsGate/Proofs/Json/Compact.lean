import StandardsGate.Proofs.Json.RoundTrip

/-!
Values on one line.

What is written of a value on one line has no control characters, a line feed in a string being
written as an escape. A value without doubles that can be read at all is read as it was written, and
so are the members of an object in the order in which they stand.

Main definitions:

* `Json.Printable` — the texts without control characters;
* `Json.ReadsCompact` — whether a value is read as it was written.

Main results:

* `Json.printable_compactChars` — **a value takes one line**;
* `Json.Readable.readsCompact` — a value without doubles is read as it was written;
* `Json.parseChars_compactChars_obj` — **the members of an object** too, as they stand.
-/

namespace StandardsGate.Json

/-! ### Characters -/

/-- The texts without control characters, line feeds among them. -/
def Printable (cs : List Char) : Prop := ∀ c ∈ cs, 0x20 ≤ c.toNat

theorem printable_nil : Printable [] := fun _ h => absurd h List.not_mem_nil

theorem Printable.cons {c : Char} {cs : List Char} (hc : 0x20 ≤ c.toNat) (hcs : Printable cs) :
    Printable (c :: cs) := List.forall_mem_cons.2 ⟨hc, hcs⟩

theorem Printable.append {cs ds : List Char} (hcs : Printable cs) (hds : Printable ds) :
    Printable (cs ++ ds) := List.forall_mem_append.2 ⟨hcs, hds⟩

/-- Whether a text is printable can be seen. -/
theorem printable_of_all {cs : List Char} (h : cs.all (fun c => 0x20 ≤ c.toNat) = true) :
    Printable cs := fun c hc => of_decide_eq_true (List.all_eq_true.1 h c hc)

theorem AllDigits.printable {ds : List Char} (h : AllDigits ds) : Printable ds := by
  intro c hc
  have hrange : 48 ≤ c.toNat ∧ c.toNat ≤ 57 := Char.isDigit_iff_toNat.1 (h c hc)
  omega

theorem printable_escapeChar (c : Char) : Printable (escapeChar c) := by
  have hhex : ∀ n < 16, 0x20 ≤ (hexChar n).toNat := by decide
  unfold escapeChar
  split
  case h_8 =>
    split
    · rename_i hlow
      have hfirst : Printable ['\\', 'u', '0', '0'] := printable_of_all rfl
      exact hfirst.append
        (.cons (hhex _ (by omega)) (.cons (hhex _ (by omega)) printable_nil))
    · rename_i hhigh
      exact .cons (Nat.le_of_not_lt hhigh) printable_nil
  all_goals exact printable_of_all rfl

theorem printable_quote (s : String) : Printable (quote s) := by
  have hbody : Printable (s.toList.flatMap escapeChar) := by
    intro c hc
    obtain ⟨d, -, hd⟩ := List.mem_flatMap.1 hc
    exact printable_escapeChar d c hd
  exact (hbody.cons (by decide)).append (printable_of_all rfl)

theorem HasNumberForm.printable {cs : List Char} (h : HasNumberForm cs) : Printable cs := by
  obtain ⟨whole, fraction, exponent, rfl, hwhole, hfraction, hexponent⟩ := h.parts
  refine hwhole.printable.append (.append ?_ ?_)
  · rcases hfraction with rfl | ⟨ds, rfl, hds⟩
    · exact printable_nil
    · exact hds.printable.cons (by decide)
  · rcases hexponent with rfl | ⟨sign, ds, rfl, hds, hsign⟩
    · exact printable_nil
    · refine .cons (by decide) (.append ?_ hds.printable)
      rcases hsign with rfl | rfl | rfl <;> exact printable_of_all rfl

theorem printable_toString (n : Int) : Printable (toString n).toList := by
  have hdigits : ∀ m, AllDigits (Nat.toDigits 10 m) := fun m c =>
    HunkHeader.isDigit_of_mem_toDigits
  rcases toString_int n with ⟨m, -, hm⟩ | ⟨m, -, hm⟩
  · rw [hm]
    exact (hdigits m).printable
  · rw [hm]
    exact (hdigits (m + 1)).printable.cons (by decide)

theorem printable_floatText (x : Double) : Printable (floatText x) := by
  rcases floatText_form x with h | h | ⟨cs, h, hform⟩
  · rw [h]
    exact printable_of_all rfl
  · exact h.printable
  · rw [h]
    exact hform.printable.cons (by decide)

mutual

/-- **A value takes one line**: there are no control characters in it. -/
theorem printable_compactChars : ∀ v : Json, Printable (compactChars v)
  | null => printable_of_all rfl
  | bool b => by cases b <;> exact printable_of_all rfl
  | int n => by
      rw [compactChars]
      exact printable_toString n
  | float x => by
      rw [compactChars]
      exact printable_floatText x
  | str s => by
      rw [compactChars]
      exact printable_quote s
  | arr items => by
      rw [compactChars]
      exact (printable_compactItems items).cons (by decide)
  | obj members => by
      rw [compactChars]
      exact (printable_compactMembers members).cons (by decide)

theorem printable_compactItems : ∀ items : List Json, Printable (compactItems items)
  | [] => printable_of_all rfl
  | [v] => by
      rw [compactItems]
      exact (printable_compactChars v).append (printable_of_all rfl)
  | v :: w :: ws => by
      rw [compactItems]
      · exact (printable_compactChars v).append
          ((printable_compactItems (w :: ws)).cons (by decide))
      · simp

theorem printable_compactMembers :
    ∀ members : List (String × Json), Printable (compactMembers members)
  | [] => printable_of_all rfl
  | [(k, v)] => by
      rw [compactMembers]
      exact ((printable_quote k).append ((printable_compactChars v).cons (by decide))).append
        (printable_of_all rfl)
  | (k, v) :: m :: ms => by
      rw [compactMembers]
      · exact ((printable_quote k).append ((printable_compactChars v).cons (by decide))).append
          ((printable_compactMembers (m :: ms)).cons (by decide))
      · simp

end

/-! ### How values begin -/

/-- What is written of a value begins in the same way on one line and over several. -/
theorem head?_compactChars (level : Nat) (v : Json) :
    (compactChars v).head? = (prettyChars level v).head? := by
  cases v with
  | arr items => cases items <;> rw [compactChars, prettyChars] <;> rfl
  | obj members => cases members <;> rw [compactChars, prettyChars] <;> rfl
  | _ => rw [compactChars, prettyChars]

/-- A value without doubles is written with a character that begins a value. -/
theorem exists_compactChars {v : Json} (hv : IsWhole v) :
    ∃ c cs, compactChars v = c :: cs ∧ isBlank c = false ∧ c ≠ ',' ∧ c ≠ ']' ∧ c ≠ '\x7d' := by
  have hbegins : ∀ c ∈ (compactChars v).head?,
      isBlank c = false ∧ c ≠ ',' ∧ c ≠ ']' ∧ c ≠ '\x7d' := by
    rw [head?_compactChars 0]
    exact begins_prettyChars 0 v
  cases hcs : compactChars v with
  | nil =>
      have hnone : (prettyChars 0 v).head? = none := by rw [← head?_compactChars, hcs]; rfl
      obtain ⟨x, rfl⟩ := eq_float_of_prettyChars_eq_nil (List.head?_eq_none_iff.1 hnone)
      cases hv
  | cons c cs => exact ⟨c, cs, rfl, hbegins c (by rw [hcs]; rfl)⟩

/-! ### Reading -/

/-- Whether a value is read as it was written on one line, whatever stands behind it, so many levels
being allowed. -/
def ReadsCompact (depth : Nat) (v : Json) : Prop :=
  ∀ {fuel rest}, EndsNumber rest → (compactChars v).length < fuel →
    readValue fuel depth (compactChars v ++ rest) = .ok (v, rest)

theorem endsNumber_cons {c : Char} (hc : c = ',' ∨ c = ']' ∨ c = '\x7d') (rest : List Char) :
    EndsNumber (c :: rest) := by
  intro d hd
  obtain rfl : c = d := Option.some.inj hd
  rcases hc with rfl | rfl | rfl <;> decide

theorem ReadsCompact.of_succ {depth : Nat} {v : Json}
    (h : ∀ {rest}, EndsNumber rest → ∀ fuel,
      readValue (fuel + 1) depth (compactChars v ++ rest) = .ok (v, rest)) :
    ReadsCompact depth v := by
  intro fuel rest hrest hfuel
  obtain ⟨fuel, rfl⟩ := Nat.exists_eq_succ_of_ne_zero (by omega : fuel ≠ 0)
  exact h hrest fuel

section Items

variable {fuel depth : Nat} {v w : Json} {k : String} {cs rest : List Char}

theorem compactItems_append_singleton :
    compactItems [v] ++ rest = compactChars v ++ ']' :: rest := by
  rw [compactItems]
  simp

theorem compactItems_append_cons {ws : List Json} :
    compactItems (v :: w :: ws) ++ rest =
      compactChars v ++ ',' :: (compactItems (w :: ws) ++ rest) := by
  rw [compactItems]
  · simp
  · simp

theorem compactMembers_append_singleton :
    compactMembers [(k, v)] ++ rest = quote k ++ ':' :: (compactChars v ++ '\x7d' :: rest) := by
  rw [compactMembers]
  simp

theorem compactMembers_append_cons {m : String × Json} {ms : List (String × Json)} :
    compactMembers ((k, v) :: m :: ms) ++ rest =
      quote k ++ ':' :: (compactChars v ++ ',' :: (compactMembers (m :: ms) ++ rest)) := by
  rw [compactMembers]
  · simp
  · simp

theorem readMembers_quote (acc : List (String × Json)) :
    readMembers (fuel + 1) depth acc (quote k ++ ':' :: cs) =
      (readValue fuel depth cs >>= fun r =>
        match skipBlanks r.2 with
        | ',' :: rest => readMembers fuel depth ((k, r.1) :: acc) rest
        | '\x7d' :: rest => .ok (.ofMembers ((k, r.1) :: acc).reverse, rest)
        | [] => .error .unfinished
        | _ => .error .unexpected) := by
  have hquote : skipBlanks (quote k ++ ':' :: cs) =
      '"' :: (k.toList.flatMap escapeChar ++ '"' :: ':' :: cs) := by
    simp [quote, skipBlanks, isBlank]
  rw [readMembers, hquote]
  change (readString [] _ >>= _) = _
  rw [readString_quote]
  rfl

end Items

/-- The items of an array are read as they were written. -/
theorem readItems_compactItems {depth : Nat} {items : List Json} (hne : items ≠ [])
    (hitems : ∀ v ∈ items, ReadsCompact depth v) (rest : List Char) :
    ∀ {fuel : Nat} {acc : List Json}, (compactItems items).length < fuel →
      readItems fuel depth acc (compactItems items ++ rest) =
        .ok (.arr (acc.reverse ++ items), rest) := by
  induction items with
  | nil => exact absurd rfl hne
  | cons v items ih =>
      obtain ⟨hv, hitems⟩ := List.forall_mem_cons.1 hitems
      intro fuel acc hfuel
      obtain ⟨fuel, rfl⟩ := Nat.exists_eq_succ_of_ne_zero (by omega : fuel ≠ 0)
      cases items with
      | nil =>
          rw [← List.append_nil (compactItems _), compactItems_append_singleton,
            List.length_append, List.length_cons] at hfuel
          have hread := hv (endsNumber_cons (.inr (.inl rfl)) rest) (by omega : _ < fuel)
          rw [compactItems_append_singleton, readItems, hread, ← List.reverse_cons]
          rfl
      | cons w ws =>
          rw [← List.append_nil (compactItems _), compactItems_append_cons, List.length_append,
            List.length_cons, List.append_nil] at hfuel
          have hread := hv (endsNumber_cons (.inl rfl) (compactItems (w :: ws) ++ rest))
            (by omega : _ < fuel)
          rw [compactItems_append_cons, readItems, hread]
          have hmore := @ih (List.cons_ne_nil w ws) hitems fuel (v :: acc) (by omega)
          rw [List.reverse_cons, List.append_assoc, List.singleton_append] at hmore
          exact hmore

/-- The members of an object are read as they were written. -/
theorem readMembers_compactMembers {depth : Nat} {members : List (String × Json)}
    (hne : members ≠ []) (hmembers : ∀ m ∈ members, ReadsCompact depth m.2) (rest : List Char) :
    ∀ {fuel : Nat} {acc : List (String × Json)}, (compactMembers members).length < fuel →
      readMembers fuel depth acc (compactMembers members ++ rest) =
        .ok (.ofMembers (acc.reverse ++ members), rest) := by
  induction members with
  | nil => exact absurd rfl hne
  | cons m members ih =>
      obtain ⟨k, v⟩ := m
      obtain ⟨hv, hmembers⟩ := List.forall_mem_cons.1 hmembers
      dsimp only at hv
      intro fuel acc hfuel
      obtain ⟨fuel, rfl⟩ := Nat.exists_eq_succ_of_ne_zero (by omega : fuel ≠ 0)
      cases members with
      | nil =>
          rw [← List.append_nil (compactMembers _), compactMembers_append_singleton,
            List.length_append, List.length_cons, List.length_append, List.length_cons] at hfuel
          have hread := hv (endsNumber_cons (.inr (.inr rfl)) rest) (by omega : _ < fuel)
          rw [compactMembers_append_singleton, readMembers_quote, hread, ← List.reverse_cons]
          rfl
      | cons m' ms =>
          rw [← List.append_nil (compactMembers _), compactMembers_append_cons,
            List.length_append, List.length_cons, List.length_append, List.length_cons,
            List.append_nil] at hfuel
          have hread := hv (endsNumber_cons (.inl rfl) (compactMembers (m' :: ms) ++ rest))
            (by omega : _ < fuel)
          rw [compactMembers_append_cons, readMembers_quote, hread]
          have hmore := @ih (List.cons_ne_nil m' ms) hmembers fuel ((k, v) :: acc) (by omega)
          rw [List.reverse_cons, List.append_assoc, List.singleton_append] at hmore
          exact hmore

/-- **The members of an object** are read in the order in which they stand. -/
theorem readValue_compactChars_obj {depth : Nat} (hdepth : 1 < depth)
    {members : List (String × Json)} (hmembers : ∀ m ∈ members, ReadsCompact (depth - 1) m.2)
    {fuel : Nat} (hfuel : (compactChars (.obj members)).length < fuel) (rest : List Char) :
    readValue fuel depth (compactChars (.obj members) ++ rest) = .ok (.ofMembers members, rest) := by
  obtain ⟨fuel, rfl⟩ := Nat.exists_eq_succ_of_ne_zero (by omega : fuel ≠ 0)
  rw [compactChars, List.length_cons] at hfuel
  rw [compactChars, List.cons_append]
  cases members with
  | nil =>
      rw [readValue]
      exact if_neg (Nat.not_le.2 hdepth)
  | cons m ms =>
      have hhead : ∀ c ∈ (skipBlanks (compactMembers (m :: ms) ++ rest)).head?, c ≠ '\x7d' := by
        obtain ⟨k, v⟩ := m
        have hquote : (compactMembers ((k, v) :: ms) ++ rest).head? = some '"' := by
          cases ms with
          | nil =>
              rw [compactMembers_append_singleton]
              rfl
          | cons m' ms =>
              rw [compactMembers_append_cons]
              rfl
        rw [skipBlanks_of_head (by rw [hquote]; rintro _ ⟨⟩; rfl), hquote]
        rintro _ ⟨⟩
        decide
      rw [readValue_brace hdepth fuel hhead]
      exact readMembers_compactMembers (List.cons_ne_nil m ms) hmembers rest
        (Nat.lt_of_succ_lt_succ hfuel)

theorem readsCompact_arr {depth : Nat} (hdepth : 1 < depth) {items : List Json}
    (hwhole : ∀ v ∈ items, IsWhole v) (hitems : ∀ v ∈ items, ReadsCompact (depth - 1) v) :
    ReadsCompact depth (.arr items) := by
  intro fuel rest _ hfuel
  obtain ⟨fuel, rfl⟩ := Nat.exists_eq_succ_of_ne_zero (by omega : fuel ≠ 0)
  rw [compactChars, List.length_cons] at hfuel
  rw [compactChars, List.cons_append]
  cases items with
  | nil => exact readValue_empty hdepth fuel rfl
  | cons v vs =>
      -- the first item begins with what no bracket is
      obtain ⟨c, cs, hv, hblank, -, hbracket, -⟩ :=
        exists_compactChars (hwhole v List.mem_cons_self)
      have hfirst : ∃ more, compactItems (v :: vs) ++ rest = c :: more := by
        cases vs with
        | nil => exact ⟨_, by rw [compactItems_append_singleton, hv]; rfl⟩
        | cons w ws => exact ⟨_, by rw [compactItems_append_cons, hv]; rfl⟩
      obtain ⟨more, hmore⟩ := hfirst
      have hhead : ∀ d ∈ (skipBlanks (compactItems (v :: vs) ++ rest)).head?, d ≠ ']' := by
        rw [hmore, skipBlanks_of_head (by rintro _ ⟨⟩; exact hblank)]
        rintro _ ⟨⟩
        exact hbracket
      rw [readValue_bracket hdepth fuel hhead]
      exact readItems_compactItems (List.cons_ne_nil v vs) hitems rest
        (Nat.lt_of_succ_lt_succ hfuel)

/-- A value without doubles that can be read is read as it was written. -/
theorem Readable.readsCompact {depth : Nat} {v : Json} (h : Readable depth v) (hwhole : IsWhole v) :
    ReadsCompact depth v := by
  induction h with
  | null depth =>
      refine ReadsCompact.of_succ fun _ fuel => ?_
      rw [compactChars]
      exact readValue_null fuel depth _
  | bool depth b =>
      refine ReadsCompact.of_succ fun _ fuel => ?_
      rw [compactChars]
      exact readValue_bool b fuel depth _
  | int hn =>
      refine ReadsCompact.of_succ fun hrest fuel => ?_
      rw [compactChars]
      exact readValue_int hn hrest fuel _
  | float depth x => cases hwhole
  | str depth s =>
      refine ReadsCompact.of_succ fun _ fuel => ?_
      rw [compactChars]
      exact readValue_quote s fuel depth _
  | arr hdepth _ ih =>
      cases hwhole with
      | arr hwhole => exact readsCompact_arr hdepth hwhole fun v hv => ih v hv (hwhole v hv)
  | obj hdepth hsorted _ ih =>
      cases hwhole with
      | obj hwhole =>
          intro fuel rest _ hfuel
          rw [readValue_compactChars_obj hdepth (fun m hm => ih m hm (hwhole m hm)) hfuel rest,
            ofMembers, SortedMap.entries_ofList_of_ascending hsorted]

/-- **The members of an object that is a text of its own** are read as they stand. -/
theorem parseChars_compactChars_obj {members : List (String × Json)}
    (hread : ∀ m ∈ members, Readable (depthLimit - 1) m.2) (hwhole : ∀ m ∈ members, IsWhole m.2) :
    parseChars (compactChars (.obj members)) = .ok (.ofMembers members) := by
  have hlimit : 1 < depthLimit := by decide
  have hvalue := readValue_compactChars_obj hlimit
    (fun m hm => (hread m hm).readsCompact (hwhole m hm))
    (by omega : _ < 2 * (compactChars (.obj members)).length + 2) []
  rw [List.append_nil] at hvalue
  rw [parseChars, hvalue]
  rfl

end StandardsGate.Json
