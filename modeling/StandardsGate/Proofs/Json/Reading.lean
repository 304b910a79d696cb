import StandardsGate.Proofs.Json.Numbers

/-!
What reading JSON gives.

A value that is read nests less deep than the reader allows, its whole numbers have 64 bits, and the
members of its objects are sorted by key.

Main definitions:

* `Json.Readable` — the values that can be read when so many levels are allowed.

Main results:

* `SortedMap.entries_ofList_of_ascending` — sorted entries make the map that has them;
* `Json.readable_of_parse` — **what reading a text gives**.
-/

namespace StandardsGate

/-! ### Sorted entries -/

theorem setSorted_of_forall_lt {α : Type} {es : List (String × α)} {key : String} {value : α}
    (h : ∀ e ∈ es, e.1 < key) : setSorted key value es = es ++ [(key, value)] := by
  induction es with
  | nil => rfl
  | cons e es ih =>
      obtain ⟨k, v⟩ := e
      obtain ⟨hk, hes⟩ := List.forall_mem_cons.1 h
      have hne : key ≠ k := by
        rintro rfl
        exact String.lt_irrefl key hk
      rw [setSorted, if_neg hne, if_neg (String.lt_asymm hk), ih hes]
      rfl

theorem SortedMap.entries_foldl_insert {α : Type} {es : List (String × α)} {m : SortedMap α}
    (h : (m.entries ++ es).Pairwise fun a b => a.1 < b.1) :
    (es.foldl (fun m e => m.insert e.1 e.2) m).entries = m.entries ++ es := by
  induction es generalizing m with
  | nil => rw [List.append_nil]; rfl
  | cons e es ih =>
      have hlast : (m.insert e.1 e.2).entries = m.entries ++ [e] := by
        refine setSorted_of_forall_lt fun e' he' => ?_
        exact (List.pairwise_append.1 h).2.2 e' he' e List.mem_cons_self
      rw [List.foldl_cons, ih, hlast, List.append_assoc]
      · rfl
      · rw [hlast, List.append_assoc]
        exact h

/-- Sorted entries make the map that has them. -/
theorem SortedMap.entries_ofList_of_ascending {α : Type} {es : List (String × α)}
    (h : es.Pairwise fun a b => a.1 < b.1) : (SortedMap.ofList es).entries = es :=
  entries_foldl_insert (m := SortedMap.empty) h

theorem SortedMap.mem_of_mem_ofList {α : Type} {es : List (String × α)} {e : String × α}
    (h : e ∈ (SortedMap.ofList es).entries) : e ∈ es := by
  have hfold : ∀ (es : List (String × α)) (m : SortedMap α),
      e ∈ (es.foldl (fun m e => m.insert e.1 e.2) m).entries → e ∈ m.entries ∨ e ∈ es := by
    intro es
    induction es with
    | nil => exact fun m h => .inl h
    | cons e' es ih =>
        intro m h
        rcases ih _ h with h | h
        · rcases mem_setSorted h with rfl | h
          · exact .inr List.mem_cons_self
          · exact .inl h
        · exact .inr (List.mem_cons_of_mem _ h)
  rcases hfold es SortedMap.empty h with h | h
  · exact absurd h List.not_mem_nil
  · exact h

namespace Json

/-! ### Values that are read -/

/-- The values that can be read when so many levels of arrays and objects are allowed, less one. -/
inductive Readable : Nat → Json → Prop
  | null (depth : Nat) : Readable depth .null
  | bool (depth : Nat) (b : Bool) : Readable depth (.bool b)
  | int {depth : Nat} {n : Int} (hn : IsWholeNumber n) : Readable depth (.int n)
  | float (depth : Nat) (x : Double) : Readable depth (.float x)
  | str (depth : Nat) (s : String) : Readable depth (.str s)
  | arr {depth : Nat} {items : List Json} (hdepth : 1 < depth)
      (hitems : ∀ v ∈ items, Readable (depth - 1) v) : Readable depth (.arr items)
  | obj {depth : Nat} {members : List (String × Json)} (hdepth : 1 < depth)
      (hsorted : members.Pairwise fun a b => a.1 < b.1)
      (hmembers : ∀ m ∈ members, Readable (depth - 1) m.2) : Readable depth (.obj members)

theorem IsNumber.readable {v : Json} (h : IsNumber v) (depth : Nat) : Readable depth v := by
  rcases h with ⟨n, rfl, hn⟩ | ⟨x, rfl⟩
  · exact .int hn
  · exact .float depth x

theorem readable_of_readWord {word cs rest : List Char} {value v : Json} {depth : Nat}
    (hvalue : Readable depth value) (h : readWord word value cs = .ok (v, rest)) :
    Readable depth v := by
  unfold readWord at h
  split at h <;> cases h
  exact hvalue

/-! #### One reading after another -/

/-- Whether readings of a value with so much fuel give one that can be read. -/
def ValuesReadable (fuel : Nat) : Prop :=
  ∀ depth cs v rest, readValue fuel depth cs = .ok (v, rest) → Readable depth v

/-- Whether readings of items with so much fuel give an array of such values. -/
def ItemsReadable (fuel : Nat) : Prop :=
  ∀ depth acc cs v rest, (∀ a ∈ acc, Readable depth a) →
    readItems fuel depth acc cs = .ok (v, rest) →
    ∃ items, v = .arr items ∧ ∀ i ∈ items, Readable depth i

/-- Whether readings of members with so much fuel give an object of such values, sorted by key. -/
def MembersReadable (fuel : Nat) : Prop :=
  ∀ depth acc cs v rest, (∀ m ∈ acc, Readable depth (Prod.snd m)) →
    readMembers fuel depth acc cs = .ok (v, rest) →
    ∃ members, v = .obj members ∧ (members.Pairwise fun a b => a.1 < b.1) ∧
      ∀ m ∈ members, Readable depth m.2

section

variable {fuel : Nat}

theorem ValuesReadable.succ (ihItems : ItemsReadable fuel) (ihMembers : MembersReadable fuel) :
    ValuesReadable (fuel + 1) := by
  intro depth cs v rest h
  rw [readValue] at h
  split at h
  · cases h
  · obtain ⟨⟨s, rest'⟩, -, h⟩ := exists_of_bind_eq_ok h
    cases h
    exact .str depth s
  · split at h
    · cases h
    · rename_i hdepth
      have hdepth := Nat.lt_of_not_le hdepth
      split at h
      · cases h
        exact .arr hdepth fun v hv => absurd hv List.not_mem_nil
      · obtain ⟨items, rfl, hitems⟩ := ihItems _ _ _ _ _ (fun a ha => absurd ha List.not_mem_nil) h
        exact .arr hdepth hitems
  · split at h
    · cases h
    · rename_i hdepth
      have hdepth := Nat.lt_of_not_le hdepth
      split at h
      · cases h
        exact .obj hdepth List.Pairwise.nil fun m hm => absurd hm List.not_mem_nil
      · obtain ⟨members, rfl, hsorted, hmembers⟩ := ihMembers _ _ _ _ _
          (fun a ha => absurd ha List.not_mem_nil) h
        exact .obj hdepth hsorted hmembers
  · exact readable_of_readWord (.bool depth true) h
  · exact readable_of_readWord (.bool depth false) h
  · exact readable_of_readWord (.null depth) h
  · exact (isNumber_of_readNumber h).readable depth
  · split at h
    · exact (isNumber_of_readNumber h).readable depth
    · cases h

theorem ItemsReadable.succ (ihValue : ValuesReadable fuel) (ihItems : ItemsReadable fuel) :
    ItemsReadable (fuel + 1) := by
  intro depth acc cs v rest hacc h
  rw [readItems] at h
  obtain ⟨⟨w, rest'⟩, hw, h⟩ := exists_of_bind_eq_ok h
  have hcons : ∀ a ∈ w :: acc, Readable depth a :=
    List.forall_mem_cons.2 ⟨ihValue _ _ _ _ hw, hacc⟩
  dsimp only at h
  split at h
  · exact ihItems _ _ _ _ _ hcons h
  · cases h
    exact ⟨_, rfl, fun i hi => hcons i (List.mem_reverse.1 hi)⟩
  · cases h
  · cases h

theorem MembersReadable.succ (ihValue : ValuesReadable fuel) (ihMembers : MembersReadable fuel) :
    MembersReadable (fuel + 1) := by
  intro depth acc cs v rest hacc h
  rw [readMembers] at h
  split at h
  · obtain ⟨⟨key, rest'⟩, -, h⟩ := exists_of_bind_eq_ok h
    dsimp only at h
    split at h
    · obtain ⟨⟨w, rest''⟩, hw, h⟩ := exists_of_bind_eq_ok h
      have hcons : ∀ m ∈ (key, w) :: acc, Readable depth (Prod.snd m) :=
        List.forall_mem_cons.2 ⟨ihValue _ _ _ _ hw, hacc⟩
      dsimp only at h
      split at h
      · exact ihMembers _ _ _ _ _ hcons h
      · cases h
        -- A key that comes again keeps one of its members, so none is added by the sorting.
        refine ⟨_, rfl, (SortedMap.ofList _).ascending, fun m hm => ?_⟩
        exact hcons m (List.mem_reverse.1 (SortedMap.mem_of_mem_ofList hm))
      · cases h
      · cases h
    · cases h
    · cases h
  · cases h
  · cases h

end

/-- What readings with so much fuel give. -/
theorem readable_of_reading (fuel : Nat) :
    ValuesReadable fuel ∧ ItemsReadable fuel ∧ MembersReadable fuel := by
  induction fuel with
  | zero =>
      refine ⟨fun depth cs v rest h => ?_, fun depth acc cs v rest _ h => ?_,
        fun depth acc cs v rest _ h => ?_⟩
      · rw [readValue] at h
        cases h
      · rw [readItems] at h
        cases h
      · rw [readMembers] at h
        cases h
  | succ fuel ih =>
      obtain ⟨ihValue, ihItems, ihMembers⟩ := ih
      exact ⟨.succ ihItems ihMembers, .succ ihValue ihItems, .succ ihValue ihMembers⟩

/-- **What reading a text gives.** -/
theorem readable_of_parse {s : String} {v : Json} (h : parse s = .ok v) :
    Readable depthLimit v := by
  unfold parse parseChars at h
  obtain ⟨⟨w, rest⟩, hw, h⟩ := exists_of_bind_eq_ok h
  dsimp only at h
  split at h <;> cases h
  exact (readable_of_reading _).1 _ _ _ _ hw

end Json

end StandardsGate
