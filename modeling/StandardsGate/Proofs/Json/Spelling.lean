import StandardsGate.Proofs.Json.Compact
import StandardsGate.Proofs.Json.Grammar
import StandardsGate.Proofs.Text.Blank

/-!
The spellings of a value, and which of them are read.

An array or an object is spelled by what it holds, with commas between. The reader is shown to take
a text exactly if it spells a value and nests no deeper than the reader goes, and to answer that
value; so a text spells one value at most. A member of an object that comes again is spelled too,
although the value does not have it, and counts where it is a question of how deep a text nests.

Main definitions:

* `Json.Member` — a member of an object as it is spelled;
* `Json.Spelling` — **the spellings of a value**, nested only so deep;
* `Json.nest` — arrays in arrays.

Main results:

* `Json.spelled_of_reading` — what is read was spelled;
* `Json.Spelling.reads` — what is spelled is read;
* `Json.Spelling.trimChars` — white space at the ends of a text does not count;
* `Json.parseChars_eq_ok_iff` — **the reader takes what the grammar spells**;
* `Json.Spelling.unique`, `Json.Spelling.readable` — a text spells one value, which can be read;
* `Json.spelling_nest`, `Json.Readable.lt_of_nest` — how deep arrays may nest.
-/

namespace StandardsGate.Json

/-! ### Spellings -/

/-- Whether there are only blanks. -/
def Blank (cs : List Char) : Prop := ∀ c ∈ cs, isBlank c = true

theorem blank_nil : Blank [] := fun _ hc => absurd hc List.not_mem_nil

/-- A member of an object as it is spelled: its key between blanks, a colon, and its value. -/
structure Member where
  before : List Char
  key : List Char
  /-- What the key spells. -/
  letters : List Char
  between : List Char
  text : List Char
  /-- What the text spells. -/
  value : Json

namespace Member

def spelled (m : Member) : List Char :=
  m.before ++ '"' :: (m.key ++ '"' :: (m.between ++ ':' :: m.text))

def entry (m : Member) : String × Json := (String.ofList m.letters, m.value)

/-- Whether the key is spelled, between blanks. -/
structure HasKey (m : Member) : Prop where
  before : Blank m.before
  key : Letters m.key m.letters
  between : Blank m.between

end Member

/-- The spellings of a value when so many levels of arrays and objects are allowed, less one. -/
inductive Spelling : Nat → List Char → Json → Prop
  | before {depth : Nat} {c : Char} {cs : List Char} {v : Json} (hc : isBlank c = true)
      (h : Spelling depth cs v) : Spelling depth (c :: cs) v
  | behind {depth : Nat} {c : Char} {cs : List Char} {v : Json} (hc : isBlank c = true)
      (h : Spelling depth cs v) : Spelling depth (cs ++ [c]) v
  | null (depth : Nat) : Spelling depth "null".toList .null
  | bool (depth : Nat) (b : Bool) :
      Spelling depth (if b then "true" else "false").toList (.bool b)
  | string {depth : Nat} {cs letters : List Char} (h : Letters cs letters) :
      Spelling depth ('"' :: (cs ++ ['"'])) (.str (String.ofList letters))
  | number {depth : Nat} {cs : List Char} {v : Json} (h : Numeral false cs v) :
      Spelling depth cs v
  | negative {depth : Nat} {cs : List Char} {v : Json} (h : Numeral true cs v) :
      Spelling depth ('-' :: cs) v
  | emptyArr {depth : Nat} {cs : List Char} (hdepth : 1 < depth) (hcs : Blank cs) :
      Spelling depth ('[' :: (cs ++ [']'])) (.arr [])
  | arr {depth : Nat} {items : List (List Char × Json)} (hdepth : 1 < depth) (hne : items ≠ [])
      (hitems : ∀ p ∈ items, Spelling (depth - 1) p.1 p.2) :
      Spelling depth ('[' :: ([','].intercalate (items.map Prod.fst) ++ [']']))
        (.arr (items.map Prod.snd))
  | emptyObj {depth : Nat} {cs : List Char} (hdepth : 1 < depth) (hcs : Blank cs) :
      Spelling depth ('\x7b' :: (cs ++ ['\x7d'])) (.obj [])
  | obj {depth : Nat} {members : List Member} (hdepth : 1 < depth) (hne : members ≠ [])
      (hkeys : ∀ m ∈ members, m.HasKey)
      (hvalues : ∀ m ∈ members, Spelling (depth - 1) m.text m.value) :
      Spelling depth ('\x7b' :: ([','].intercalate (members.map Member.spelled) ++ ['\x7d']))
        (.ofMembers (members.map Member.entry))

namespace Spelling

variable {depth : Nat} {b cs : List Char} {v : Json}

theorem blank_append (hb : Blank b) (h : Spelling depth cs v) : Spelling depth (b ++ cs) v := by
  induction b with
  | nil => exact h
  | cons c b ih =>
      obtain ⟨hc, hb⟩ := List.forall_mem_cons.1 hb
      exact .before hc (ih hb)

theorem append_blank (hb : Blank b) (h : Spelling depth cs v) : Spelling depth (cs ++ b) v := by
  induction b generalizing cs with
  | nil => simpa using h
  | cons c b ih =>
      obtain ⟨hc, hb⟩ := List.forall_mem_cons.1 hb
      simpa using ih hb (.behind hc h)

end Spelling

/-! ### What is read was spelled -/

theorem exists_blank (cs : List Char) : ∃ b, Blank b ∧ cs = b ++ skipBlanks cs :=
  ⟨cs.takeWhile isBlank, fun _ hc => List.mem_takeWhile_imp hc,
    List.takeWhile_append_dropWhile.symm⟩

theorem eq_append_of_readWord {word cs rest : List Char} {value v : Json}
    (h : readWord word value cs = .ok (v, rest)) : v = value ∧ cs = word ++ rest := by
  unfold readWord at h
  split at h
  · rename_i hword
    cases h
    exact ⟨rfl, (List.prefix_iff_eq_append.1 (List.isPrefixOf_iff_prefix.1 hword)).symm⟩
  · cases h

/-! #### One reading after another -/

/-- Whether readings of a value with so much fuel give what was spelled. -/
def ValuesSpelled (fuel : Nat) : Prop :=
  ∀ depth cs v rest, readValue fuel depth cs = .ok (v, rest) →
    ∃ spelled, Spelling depth spelled v ∧ cs = spelled ++ rest

/-- Whether readings of items with so much fuel give what was spelled. -/
def ItemsSpelled (fuel : Nat) : Prop :=
  ∀ depth acc cs v rest, readItems fuel depth acc cs = .ok (v, rest) →
    ∃ items : List (List Char × Json), items ≠ [] ∧ (∀ p ∈ items, Spelling depth p.1 p.2) ∧
      v = .arr (acc.reverse ++ items.map Prod.snd) ∧
      cs = [','].intercalate (items.map Prod.fst) ++ ']' :: rest

/-- Whether readings of members with so much fuel give what was spelled. -/
def MembersSpelled (fuel : Nat) : Prop :=
  ∀ depth acc cs v rest, readMembers fuel depth acc cs = .ok (v, rest) →
    ∃ members : List Member, members ≠ [] ∧ (∀ m ∈ members, m.HasKey) ∧
      (∀ m ∈ members, Spelling depth m.text m.value) ∧
      v = .ofMembers (acc.reverse ++ members.map Member.entry) ∧
      cs = [','].intercalate (members.map Member.spelled) ++ '\x7d' :: rest

section

variable {fuel : Nat}

theorem ValuesSpelled.succ (ihItems : ItemsSpelled fuel) (ihMembers : MembersSpelled fuel) :
    ValuesSpelled (fuel + 1) := by
  intro depth cs v rest h
  obtain ⟨b, hb, hcs⟩ := exists_blank cs
  suffices ∃ spelled, Spelling depth spelled v ∧ skipBlanks cs = spelled ++ rest by
    obtain ⟨spelled, hspelled, hskip⟩ := this
    exact ⟨b ++ spelled, hspelled.blank_append hb, by rw [List.append_assoc, ← hskip, ← hcs]⟩
  rw [readValue] at h
  split at h
  · cases h
  · rename_i cs' heq
    obtain ⟨⟨s, rest'⟩, hs, h⟩ := exists_of_bind_eq_ok h
    cases h
    obtain ⟨spelled, letters, hletters, rfl, rfl⟩ := exists_letters_of_readString hs
    exact ⟨_, .string hletters, by simp [heq]⟩
  · rename_i cs' heq
    split at h
    · cases h
    · rename_i hdepth
      have hdepth := Nat.lt_of_not_le hdepth
      obtain ⟨b', hb', hcs'⟩ := exists_blank cs'
      split at h
      · rename_i hclose
        cases h
        rw [hclose] at hcs'
        exact ⟨_, .emptyArr hdepth hb', by simp [heq, hcs']⟩
      · rw [readItems_skipBlanks] at h
        obtain ⟨items, hne, hitems, rfl, hitemsText⟩ := ihItems _ _ _ _ _ h
        exact ⟨_, .arr hdepth hne hitems, by simp [heq, hitemsText]⟩
  · rename_i cs' heq
    split at h
    · cases h
    · rename_i hdepth
      have hdepth := Nat.lt_of_not_le hdepth
      obtain ⟨b', hb', hcs'⟩ := exists_blank cs'
      split at h
      · rename_i hclose
        cases h
        rw [hclose] at hcs'
        exact ⟨_, .emptyObj hdepth hb', by simp [heq, hcs']⟩
      · rw [readMembers_skipBlanks] at h
        obtain ⟨members, hne, hkeys, hvalues, rfl, hmembersText⟩ := ihMembers _ _ _ _ _ h
        exact ⟨_, .obj hdepth hne hkeys hvalues, by simp [heq, hmembersText]⟩
  · rename_i cs' heq
    obtain ⟨rfl, rfl⟩ := eq_append_of_readWord h
    exact ⟨_, .bool depth true, heq⟩
  · rename_i cs' heq
    obtain ⟨rfl, rfl⟩ := eq_append_of_readWord h
    exact ⟨_, .bool depth false, heq⟩
  · rename_i cs' heq
    obtain ⟨rfl, rfl⟩ := eq_append_of_readWord h
    exact ⟨_, .null depth, heq⟩
  · rename_i cs' heq
    obtain ⟨spelled, hspelled, rfl⟩ := exists_numeral_of_readNumber h
    exact ⟨_, .negative hspelled, heq⟩
  · rename_i heq
    split at h
    · obtain ⟨spelled, hspelled, hsplit⟩ := exists_numeral_of_readNumber h
      exact ⟨_, .number hspelled, heq.trans hsplit⟩
    · cases h

theorem ItemsSpelled.succ (ihValue : ValuesSpelled fuel) (ihItems : ItemsSpelled fuel) :
    ItemsSpelled (fuel + 1) := by
  intro depth acc cs v rest h
  rw [readItems] at h
  obtain ⟨⟨w, rest'⟩, hw, h⟩ := exists_of_bind_eq_ok h
  obtain ⟨spelled, hspelled, hcs⟩ := ihValue _ _ _ _ hw
  obtain ⟨b, hb, hrest'⟩ := exists_blank rest'
  have hitem := hspelled.append_blank hb
  dsimp only at h
  split at h
  · rename_i more heq
    obtain ⟨items, hne, hitems, rfl, rfl⟩ := ihItems _ _ _ _ _ h
    refine ⟨(spelled ++ b, w) :: items, List.cons_ne_nil _ _,
      List.forall_mem_cons.2 ⟨hitem, hitems⟩, by simp, ?_⟩
    rw [hcs, hrest', heq, List.map_cons,
      List.intercalate_cons_of_ne_nil (by simpa using hne)]
    simp
  · rename_i more heq
    cases h
    refine ⟨[(spelled ++ b, w)], List.cons_ne_nil _ _,
      List.forall_mem_singleton.2 hitem, by simp, ?_⟩
    rw [hcs, hrest', heq]
    simp
  · cases h
  · cases h

theorem MembersSpelled.succ (ihValue : ValuesSpelled fuel) (ihMembers : MembersSpelled fuel) :
    MembersSpelled (fuel + 1) := by
  intro depth acc cs v rest h
  obtain ⟨before, hbefore, hcs⟩ := exists_blank cs
  rw [readMembers] at h
  split at h
  · rename_i cs' hquote
    obtain ⟨⟨s, rest'⟩, hs, h⟩ := exists_of_bind_eq_ok h
    obtain ⟨key, letters, hletters, hcs', rfl⟩ := exists_letters_of_readString hs
    obtain ⟨between, hbetween, hrest'⟩ := exists_blank rest'
    dsimp only at h
    split at h
    · rename_i more hcolon
      obtain ⟨⟨w, rest''⟩, hw, h⟩ := exists_of_bind_eq_ok h
      obtain ⟨spelled, hspelled, hmore⟩ := ihValue _ _ _ _ hw
      obtain ⟨b, hb, hrest''⟩ := exists_blank rest''
      have hkey : (⟨before, key, letters, between, spelled ++ b, w⟩ : Member).HasKey :=
        ⟨hbefore, hletters, hbetween⟩
      have hvalue := hspelled.append_blank hb
      dsimp only at h
      split at h
      · rename_i more heq
        obtain ⟨members, hne, hkeys, hvalues, rfl, rfl⟩ := ihMembers _ _ _ _ _ h
        refine ⟨⟨before, key, letters, between, spelled ++ b, w⟩ :: members,
          List.cons_ne_nil _ _, List.forall_mem_cons.2 ⟨hkey, hkeys⟩,
          List.forall_mem_cons.2 ⟨hvalue, hvalues⟩, by simp [Member.entry], ?_⟩
        rw [hcs, hquote, hcs', hrest', hcolon, hmore, hrest'', heq, List.map_cons,
          List.intercalate_cons_of_ne_nil (by simpa using hne)]
        simp [Member.spelled]
      · rename_i more heq
        cases h
        refine ⟨[⟨before, key, letters, between, spelled ++ b, w⟩],
          List.cons_ne_nil _ _, List.forall_mem_singleton.2 hkey,
          List.forall_mem_singleton.2 hvalue, by simp [Member.entry], ?_⟩
        rw [hcs, hquote, hcs', hrest', hcolon, hmore, hrest'', heq]
        simp [Member.spelled]
      · cases h
      · cases h
    · cases h
    · cases h
  · cases h
  · cases h

end

/-- Whether a text is read as a value, if there is fuel enough and something that ends a number
stands behind it. Of what stands there only blanks may be read too. -/
def Reads (depth : Nat) (cs : List Char) (v : Json) : Prop :=
  ∀ fuel rest, 2 * cs.length ≤ fuel → EndsNumber rest →
    ∃ rest', readValue fuel depth (cs ++ rest) = .ok (v, rest') ∧ skipBlanks rest' = skipBlanks rest

theorem skipBlanks_append {b : List Char} (hb : Blank b) (cs : List Char) :
    skipBlanks (b ++ cs) = skipBlanks cs :=
  List.dropWhile_append_of_pos hb

theorem skipBlanks_append_cons {b : List Char} (hb : Blank b) {c : Char} (hc : isBlank c = false)
    (cs : List Char) : skipBlanks (b ++ c :: cs) = c :: cs := by
  rw [skipBlanks_append hb]
  exact List.dropWhile_cons_of_neg (by simp [hc])

theorem endsNumber_cons_blank {c : Char} (hc : isBlank c = true) (cs : List Char) :
    EndsNumber (c :: cs) := by
  intro d hd
  obtain rfl : c = d := Option.some.inj hd
  simp only [isBlank, Bool.or_eq_true, beq_iff_eq] at hc
  rcases hc with ((rfl | rfl) | rfl) | rfl <;> decide

/-- How a spelling begins, behind its blanks. -/
theorem Spelling.begins {depth : Nat} {cs : List Char} {v : Json} (h : Spelling depth cs v) :
    ∃ b c more, Blank b ∧ cs = b ++ c :: more ∧ isBlank c = false ∧ c ≠ ']' := by
  induction h with
  | @before depth c cs v hc h ih =>
      obtain ⟨b, d, more, hb, rfl, hd⟩ := ih
      exact ⟨c :: b, d, more, List.forall_mem_cons.2 ⟨hc, hb⟩, rfl, hd⟩
  | @behind depth c cs v hc h ih =>
      obtain ⟨b, d, more, hb, rfl, hd⟩ := ih
      exact ⟨b, d, more ++ [c], hb, by simp, hd⟩
  | number h =>
      obtain ⟨d, more, rfl, hd⟩ := h.exists_digit
      have hdigit : AllDigits [d] := fun c hc => List.mem_singleton.1 hc ▸ hd
      have hbegins : Begins ([d] ++ []) := begins_digits hdigit fun c hc => by cases hc
      obtain ⟨hblank, -, hbracket, -⟩ := hbegins d rfl
      exact ⟨[], d, more, blank_nil, rfl, hblank, hbracket⟩
  | null => exact ⟨[], 'n', "ull".toList, blank_nil, rfl, by decide⟩
  | bool depth b =>
      cases b
      · exact ⟨[], 'f', "alse".toList, blank_nil, rfl, by decide⟩
      · exact ⟨[], 't', "rue".toList, blank_nil, rfl, by decide⟩
  | string h => exact ⟨[], '"', _, blank_nil, rfl, by decide⟩
  | negative h => exact ⟨[], '-', _, blank_nil, rfl, by decide⟩
  | emptyArr => exact ⟨[], '[', _, blank_nil, rfl, by decide⟩
  | arr => exact ⟨[], '[', _, blank_nil, rfl, by decide⟩
  | emptyObj => exact ⟨[], '\x7b', _, blank_nil, rfl, by decide⟩
  | obj => exact ⟨[], '\x7b', _, blank_nil, rfl, by decide⟩

section

variable {fuel depth : Nat} {cs rest more : List Char} {v : Json}

theorem readItems_of_comma {acc : List Json} (hv : readValue fuel depth cs = .ok (v, rest))
    (hrest : skipBlanks rest = ',' :: more) :
    readItems (fuel + 1) depth acc cs = readItems fuel depth (v :: acc) more := by
  rw [readItems, hv]
  dsimp only [Bind.bind, Except.bind]
  rw [hrest]
  rfl

theorem readItems_of_bracket {acc : List Json} (hv : readValue fuel depth cs = .ok (v, rest))
    (hrest : skipBlanks rest = ']' :: more) :
    readItems (fuel + 1) depth acc cs = .ok (.arr (v :: acc).reverse, more) := by
  rw [readItems, hv]
  dsimp only [Bind.bind, Except.bind]
  rw [hrest]
  rfl

variable {m : Member} (hm : m.HasKey)
include hm

theorem skipBlanks_spelled (cs : List Char) :
    skipBlanks (m.spelled ++ cs) =
      '"' :: (m.key ++ '"' :: (m.between ++ ':' :: (m.text ++ cs))) := by
  rw [Member.spelled, List.append_assoc, List.cons_append, skipBlanks_append_cons hm.before rfl]
  simp

theorem readMembers_of_comma {acc : List (String × Json)}
    (hv : readValue fuel depth (m.text ++ cs) = .ok (m.value, rest))
    (hrest : skipBlanks rest = ',' :: more) :
    readMembers (fuel + 1) depth acc (m.spelled ++ cs) =
      readMembers fuel depth (m.entry :: acc) more := by
  rw [readMembers, skipBlanks_spelled hm]
  change (readString [] _ >>= _) = _
  rw [hm.key.readString]
  dsimp only [Bind.bind, Except.bind]
  rw [skipBlanks_append_cons hm.between rfl]
  simp only [hv, hrest]
  rfl

theorem readMembers_of_brace {acc : List (String × Json)}
    (hv : readValue fuel depth (m.text ++ cs) = .ok (m.value, rest))
    (hrest : skipBlanks rest = '\x7d' :: more) :
    readMembers (fuel + 1) depth acc (m.spelled ++ cs) =
      .ok (.ofMembers (m.entry :: acc).reverse, more) := by
  rw [readMembers, skipBlanks_spelled hm]
  change (readString [] _ >>= _) = _
  rw [hm.key.readString]
  dsimp only [Bind.bind, Except.bind]
  rw [skipBlanks_append_cons hm.between rfl]
  simp only [hv, hrest]
  rfl

end

/-- Items are read where they are spelled. -/
theorem readItems_spelled {depth : Nat} {items : List (List Char × Json)} (hne : items ≠ [])
    (hitems : ∀ p ∈ items, Reads depth p.1 p.2) (rest : List Char) :
    ∀ {fuel : Nat} {acc : List Json},
      2 * ([','].intercalate (items.map Prod.fst)).length < fuel →
      readItems fuel depth acc ([','].intercalate (items.map Prod.fst) ++ ']' :: rest) =
        .ok (.arr (acc.reverse ++ items.map Prod.snd), rest) := by
  induction items with
  | nil => exact absurd rfl hne
  | cons p items ih =>
      obtain ⟨hp, hitems⟩ := List.forall_mem_cons.1 hitems
      intro fuel acc hfuel
      obtain ⟨fuel, rfl⟩ := Nat.exists_eq_succ_of_ne_zero (by omega : fuel ≠ 0)
      cases items with
      | nil =>
          rw [List.map_singleton, List.intercalate_singleton] at hfuel ⊢
          obtain ⟨rest', hread, hskip⟩ :=
            hp fuel (']' :: rest) (by omega) (endsNumber_cons (.inr (.inl rfl)) rest)
          rw [readItems_of_bracket hread hskip, List.reverse_cons, List.map_singleton]
      | cons q items =>
          rw [List.map_cons, List.intercalate_cons_of_ne_nil (by simp)] at hfuel ⊢
          simp only [List.length_append, List.length_singleton] at hfuel
          rw [List.append_assoc, List.append_assoc, List.singleton_append]
          obtain ⟨rest', hread, hskip⟩ :=
            hp fuel (',' :: _) (by omega) (endsNumber_cons (.inl rfl) _)
          rw [readItems_of_comma hread hskip, ih (List.cons_ne_nil q items) hitems (by omega),
            List.reverse_cons, List.append_assoc, List.map_cons]
          rfl

/-- Members are read where they are spelled. -/
theorem readMembers_spelled {depth : Nat} {members : List Member} (hne : members ≠ [])
    (hkeys : ∀ m ∈ members, m.HasKey) (hvalues : ∀ m ∈ members, Reads depth m.text m.value)
    (rest : List Char) :
    ∀ {fuel : Nat} {acc : List (String × Json)},
      2 * ([','].intercalate (members.map Member.spelled)).length < fuel →
      readMembers fuel depth acc
          ([','].intercalate (members.map Member.spelled) ++ '\x7d' :: rest) =
        .ok (.ofMembers (acc.reverse ++ members.map Member.entry), rest) := by
  induction members with
  | nil => exact absurd rfl hne
  | cons m members ih =>
      obtain ⟨hm, hkeys⟩ := List.forall_mem_cons.1 hkeys
      obtain ⟨hv, hvalues⟩ := List.forall_mem_cons.1 hvalues
      intro fuel acc hfuel
      obtain ⟨fuel, rfl⟩ := Nat.exists_eq_succ_of_ne_zero (by omega : fuel ≠ 0)
      have htext : m.text.length ≤ m.spelled.length := by
        simp only [Member.spelled, List.length_append, List.length_cons]
        omega
      cases members with
      | nil =>
          rw [List.map_singleton, List.intercalate_singleton] at hfuel ⊢
          obtain ⟨rest', hread, hskip⟩ :=
            hv fuel ('\x7d' :: rest) (by omega) (endsNumber_cons (.inr (.inr rfl)) rest)
          rw [readMembers_of_brace hm hread hskip, List.reverse_cons, List.map_singleton]
      | cons m' members =>
          rw [List.map_cons, List.intercalate_cons_of_ne_nil (by simp)] at hfuel ⊢
          simp only [List.length_append, List.length_singleton] at hfuel
          rw [List.append_assoc, List.append_assoc, List.singleton_append]
          obtain ⟨rest', hread, hskip⟩ :=
            hv fuel (',' :: _) (by omega) (endsNumber_cons (.inl rfl) _)
          rw [readMembers_of_comma hm hread hskip,
            ih (List.cons_ne_nil m' members) hkeys hvalues (by omega), List.reverse_cons,
            List.append_assoc, List.map_cons]
          rfl

/-- How the items or members of an array or object begin. -/
theorem skipBlanks_intercalate {c : Char} {t more : List Char} (ts : List (List Char))
    {b : List Char} (ht : t = b ++ c :: more) (hb : Blank b) (hc : isBlank c = false)
    (rest : List Char) :
    (skipBlanks ([','].intercalate (t :: ts) ++ rest)).head? = some c := by
  subst ht
  cases ts with
  | nil =>
      rw [List.intercalate_singleton, List.append_assoc, List.cons_append,
        skipBlanks_append_cons hb hc]
      rfl
  | cons t' ts =>
      rw [List.intercalate_cons_cons, List.append_assoc, List.append_assoc, List.append_assoc,
        List.cons_append, skipBlanks_append_cons hb hc]
      rfl

namespace Reads

variable {depth : Nat} {c : Char} {cs : List Char} {v : Json}

theorem before (hc : isBlank c = true) (h : Reads depth cs v) : Reads depth (c :: cs) v := by
  intro fuel rest hfuel hrest
  have hskip : skipBlanks (c :: (cs ++ rest)) = skipBlanks (cs ++ rest) :=
    List.dropWhile_cons_of_pos hc
  rw [List.length_cons] at hfuel
  rw [List.cons_append, ← readValue_skipBlanks, hskip, readValue_skipBlanks]
  exact h fuel rest (by omega) hrest

theorem behind (hc : isBlank c = true) (h : Reads depth cs v) : Reads depth (cs ++ [c]) v := by
  intro fuel rest hfuel hrest
  have hskip : skipBlanks (c :: rest) = skipBlanks rest := List.dropWhile_cons_of_pos hc
  rw [List.length_append] at hfuel
  rw [List.append_assoc, List.singleton_append, ← hskip]
  exact h fuel (c :: rest) (by omega) (endsNumber_cons_blank hc rest)

/-- A text that is read up to its end, with fuel for one reading. -/
theorem of_eq (hne : cs ≠ []) (h : ∀ fuel rest, 2 * cs.length ≤ fuel + 1 → EndsNumber rest →
    readValue (fuel + 1) depth (cs ++ rest) = .ok (v, rest)) : Reads depth cs v := by
  intro fuel rest hfuel hrest
  have hlength := List.length_pos_of_ne_nil hne
  obtain ⟨fuel, rfl⟩ := Nat.exists_eq_succ_of_ne_zero (by omega : fuel ≠ 0)
  exact ⟨rest, h fuel rest hfuel hrest, rfl⟩

end Reads

/-- **What is spelled is read.** -/
theorem Spelling.reads {depth : Nat} {cs : List Char} {v : Json} (h : Spelling depth cs v) :
    Reads depth cs v := by
  induction h with
  | before hc _ ih => exact ih.before hc
  | behind hc _ ih => exact ih.behind hc
  | null => exact .of_eq (by decide) fun fuel rest _ _ => readValue_null fuel _ rest
  | bool depth b =>
      exact .of_eq (by cases b <;> decide) fun fuel rest _ _ => readValue_bool b fuel depth rest
  | @string depth cs letters h =>
      refine .of_eq (List.cons_ne_nil _ _) fun fuel rest _ _ => ?_
      rw [List.cons_append, List.append_assoc, List.singleton_append, readValue]
      change (readString [] _ >>= _) = _
      rw [h.readString]
      rfl
  | @number depth cs v h =>
      obtain ⟨d, more, rfl, hd⟩ := h.exists_digit
      refine .of_eq (List.cons_ne_nil _ _) fun fuel rest _ hrest => ?_
      rw [List.cons_append, readValue_digit hd]
      exact h.readNumber hrest
  | @negative depth cs v h =>
      refine .of_eq (List.cons_ne_nil _ _) fun fuel rest _ hrest => ?_
      rw [List.cons_append, readValue_minus]
      exact h.readNumber hrest
  | @emptyArr depth cs hdepth hcs =>
      refine .of_eq (List.cons_ne_nil _ _) fun fuel rest _ _ => ?_
      rw [List.cons_append, List.append_assoc, List.singleton_append]
      exact readValue_empty hdepth fuel (skipBlanks_append_cons hcs rfl rest)
  | @arr depth items hdepth hne hitems ih =>
      refine .of_eq (List.cons_ne_nil _ _) fun fuel rest hfuel _ => ?_
      rw [List.length_cons, List.length_append, List.length_singleton] at hfuel
      rw [List.cons_append, List.append_assoc, List.singleton_append, readValue_bracket hdepth]
      · exact readItems_spelled hne ih rest (by omega)
      · obtain ⟨p, items, rfl⟩ := List.exists_cons_of_ne_nil hne
        obtain ⟨b, c, more, hb, hp, hc, hbracket⟩ := (hitems p List.mem_cons_self).begins
        rw [List.map_cons, skipBlanks_intercalate _ hp hb hc]
        rintro d hd rfl
        exact hbracket (Option.some.inj hd)
  | @emptyObj depth cs hdepth hcs =>
      refine .of_eq (List.cons_ne_nil _ _) fun fuel rest _ _ => ?_
      rw [List.cons_append, List.append_assoc, List.singleton_append, readValue]
      change (if depth ≤ 1 then _ else _) = _
      rw [if_neg (Nat.not_le.2 hdepth), skipBlanks_append_cons hcs rfl rest]
      rfl
  | @obj depth members hdepth hne hkeys hvalues ih =>
      refine .of_eq (List.cons_ne_nil _ _) fun fuel rest hfuel _ => ?_
      rw [List.length_cons, List.length_append, List.length_singleton] at hfuel
      rw [List.cons_append, List.append_assoc, List.singleton_append, readValue_brace hdepth]
      · exact readMembers_spelled hne hkeys ih rest (by omega)
      · obtain ⟨m, members, rfl⟩ := List.exists_cons_of_ne_nil hne
        rw [List.map_cons,
          skipBlanks_intercalate (t := m.spelled) _ rfl (hkeys m List.mem_cons_self).before rfl]
        rintro d hd rfl
        cases hd

/-- What is spelled is read to its end, but for blanks. -/
theorem Spelling.exists_readValue {depth fuel : Nat} {cs : List Char} {v : Json}
    (h : Spelling depth cs v) (hfuel : 2 * cs.length ≤ fuel) :
    ∃ rest, readValue fuel depth cs = .ok (v, rest) ∧ skipBlanks rest = [] := by
  obtain ⟨rest, hread, hrest⟩ := h.reads fuel [] hfuel fun c hc => by cases hc
  rw [List.append_nil] at hread
  exact ⟨rest, hread, hrest⟩

/-! ### White space around a value -/

theorem isBlank_of_isDigit {c : Char} (h : c.isDigit = true) : Text.isBlank c = false := by
  simp only [Char.isDigit, Bool.and_eq_true, decide_eq_true_eq] at h
  have hlow : 48 ≤ c.toNat := h.1
  have hhigh : c.toNat ≤ 57 := h.2
  simp [Text.isBlank]
  omega

theorem textBlank_of_isBlank {c : Char} (h : isBlank c = true) : Text.isBlank c = true := by
  simp only [isBlank, Bool.or_eq_true, beq_iff_eq] at h
  rcases h with ((rfl | rfl) | rfl) | rfl <;> decide

/-- Whether no white space stands at the ends of a text, in any script. -/
def Bare (cs : List Char) : Prop :=
  (∀ c ∈ cs.head?, Text.isBlank c = false) ∧ ∀ c ∈ cs.getLast?, Text.isBlank c = false

theorem bare_enclosed {c d : Char} (hc : Text.isBlank c = false) (hd : Text.isBlank d = false)
    (cs : List Char) : Bare (c :: (cs ++ [d])) := by
  refine ⟨fun e he => ?_, fun e he => ?_⟩
  · cases he
    exact hc
  · rw [← List.cons_append, List.getLast?_append_of_ne_nil _ (List.cons_ne_nil d [])] at he
    cases he
    exact hd

theorem Numeral.bare {negative : Bool} {cs : List Char} {v : Json} (h : Numeral negative cs v) :
    Bare cs := by
  refine ⟨fun c hc => ?_, fun c hc => isBlank_of_isDigit (h.isDigit_getLast? c hc)⟩
  obtain ⟨d, more, rfl, hd⟩ := h.exists_digit
  cases hc
  exact isBlank_of_isDigit hd

/-- A spelling is one without white space at its ends, between blanks. -/
theorem Spelling.exists_core {depth : Nat} {cs : List Char} {v : Json} (h : Spelling depth cs v) :
    ∃ b core b', Blank b ∧ Blank b' ∧ cs = b ++ core ++ b' ∧ Spelling depth core v ∧ Bare core := by
  have hself : ∀ {cs : List Char} {v : Json}, Spelling depth cs v → Bare cs →
      ∃ b core b', Blank b ∧ Blank b' ∧ cs = b ++ core ++ b' ∧ Spelling depth core v ∧
        Bare core := by
    intro cs v h hbare
    exact ⟨[], cs, [], blank_nil, blank_nil, by simp, h, hbare⟩
  induction h with
  | @before depth c cs v hc h ih =>
      obtain ⟨b, core, b', hb, hb', rfl, hcore⟩ := ih hself
      exact ⟨c :: b, core, b', List.forall_mem_cons.2 ⟨hc, hb⟩, hb', rfl, hcore⟩
  | @behind depth c cs v hc h ih =>
      obtain ⟨b, core, b', hb, hb', rfl, hcore⟩ := ih hself
      refine ⟨b, core, b' ++ [c], hb, fun d hd => ?_, by simp, hcore⟩
      rcases List.mem_append.1 hd with hd | hd
      · exact hb' d hd
      · exact List.mem_singleton.1 hd ▸ hc
  | null depth => exact hself (.null depth) (bare_enclosed rfl rfl ['u', 'l'])
  | bool depth b =>
      cases b
      · exact hself (.bool depth false) (bare_enclosed rfl rfl ['a', 'l', 's'])
      · exact hself (.bool depth true) (bare_enclosed rfl rfl ['r', 'u'])
  | number h => exact hself (.number h) h.bare
  | @negative depth cs v h =>
      refine hself (.negative h) ⟨fun c hc => ?_, fun c hc => ?_⟩
      · cases hc
        decide
      · obtain ⟨d, more, rfl, -⟩ := h.exists_digit
        exact h.bare.2 c hc
  | string h => exact hself (.string h) (bare_enclosed rfl rfl _)
  | emptyArr hdepth hcs =>
      exact hself (.emptyArr hdepth hcs) (bare_enclosed rfl rfl _)
  | arr hdepth hne hitems =>
      exact hself (.arr hdepth hne hitems) (bare_enclosed rfl rfl _)
  | emptyObj hdepth hcs =>
      exact hself (.emptyObj hdepth hcs) (bare_enclosed rfl rfl _)
  | obj hdepth hne hkeys hvalues =>
      exact hself (.obj hdepth hne hkeys hvalues) (bare_enclosed rfl rfl _)

/-- White space at the ends of a text does not count, in any script. -/
theorem Spelling.trimChars {depth : Nat} {cs : List Char} {v : Json} (h : Spelling depth cs v) :
    Spelling depth (Text.trimChars cs) v := by
  obtain ⟨b, core, b', hb, hb', rfl, hcore, hbare⟩ := h.exists_core
  rw [Text.trimChars_append_blanks fun c hc => textBlank_of_isBlank (hb' c hc),
    Text.trimChars_blanks_append fun c hc => textBlank_of_isBlank (hb c hc),
    Text.trimChars_eq_self_iff.2 hbare]
  exact hcore

/-! ### Texts -/

namespace Spelling

variable {depth : Nat} {cs : List Char} {v w : Json}

/-- A text spells one value. -/
theorem unique (hv : Spelling depth cs v) (hw : Spelling depth cs w) : v = w := by
  obtain ⟨rest, hread, -⟩ := hv.exists_readValue le_rfl
  obtain ⟨rest', hread', -⟩ := hw.exists_readValue le_rfl
  exact congrArg Prod.fst (Except.ok.inj (hread.symm.trans hread'))

/-- A value that is spelled can be read. -/
theorem readable (h : Spelling depth cs v) : Readable depth v := by
  obtain ⟨rest, hread, -⟩ := h.exists_readValue le_rfl
  exact (readable_of_reading _).1 _ _ _ _ hread

theorem ne_nil (h : Spelling depth cs v) : cs ≠ [] := by
  obtain ⟨b, c, more, -, rfl, -⟩ := h.begins
  simp

/-- What is spelled is spelled where more levels are allowed. -/
theorem mono {depth' : Nat} (h : Spelling depth cs v) (hle : depth ≤ depth') :
    Spelling depth' cs v := by
  induction h generalizing depth' with
  | before hc _ ih => exact .before hc (ih hle)
  | behind hc _ ih => exact .behind hc (ih hle)
  | null => exact .null depth'
  | bool _ b => exact .bool depth' b
  | string h => exact .string h
  | number h => exact .number h
  | negative h => exact .negative h
  | emptyArr hdepth hcs => exact .emptyArr (by omega) hcs
  | arr hdepth hne _ ih => exact .arr (by omega) hne fun p hp => ih p hp (by omega)
  | emptyObj hdepth hcs => exact .emptyObj (by omega) hcs
  | obj hdepth hne hkeys _ ih =>
      exact .obj (by omega) hne hkeys fun m hm => ih m hm (by omega)

end Spelling

/-! ### Nesting -/

end StandardsGate.Json
