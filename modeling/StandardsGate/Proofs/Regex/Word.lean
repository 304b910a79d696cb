import StandardsGate.Checker.Pattern
import StandardsGate.Proofs.Regex.Successive

/-!
Patterns that are words.

A word whose characters have no meaning in a pattern is a pattern that takes these characters one
after the other. Its program has one instruction for each character, the last character first behind
the accepting one, and each goes on with the instruction in front of it. Such a pattern has no
assertions, and finds its word.

Main definitions:

* `Regex.metacharacters` — the characters that have a meaning in a pattern;
* `Regex.wordCode` — the instructions of a word.

Main results:

* `Regex.readPattern_word`, `Regex.ofNode_wordNode` — the tree and the program of a word;
* `Regex.column_word` — **from the end of the word to its start**: what is left of it matches where
  it stands next in the text;
* `Regex.getElem?_ends_word_iff` — **a word matches where it stands**;
* `Pattern.forbids_of_compile` — **the pattern of a word finds the word**.
-/

namespace StandardsGate

namespace Regex

/-- The characters that have a meaning in a pattern. -/
def metacharacters : List Char := ['(', ')', '|', '[', '?', '*', '+', '{', '\\', '.', '^', '$']

/-- The set of one character. -/
def charSet (c : Char) : CodeSet := .singleton c.toNat

theorem contains_charSet_iff {c d : Char} : (charSet c).contains d = true ↔ c = d := by
  simp only [charSet, CodeSet.contains, CodeSet.containsCode, CodeSet.singleton, List.any_cons,
    List.any_nil, Bool.or_false, Bool.and_eq_true, decide_eq_true_eq]
  rw [← Char.toNat_inj]
  omega

/-- The tree of a word. -/
def wordNode (word : List Char) : Node := .seqs (word.map fun c => .set (charSet c))

/-- The instruction at which what is left of a word begins. -/
def instrOf : List Char → Instr
  | [] => .accept
  | c :: rest => .consume (charSet c) rest.length

/-- The instructions of a word. -/
def wordCode : List Char → Array Instr
  | [] => #[instrOf []]
  | c :: rest => (wordCode rest).push (instrOf (c :: rest))

/-- The program of a word. -/
def wordProgram (word : List Char) : Program := ⟨wordCode word, word.length⟩

@[simp] theorem size_wordCode (word : List Char) : (wordCode word).size = word.length + 1 := by
  induction word with
  | nil => rfl
  | cons c rest ih => simp [wordCode, ih]

/-! ### The tree -/

/-- A character without meaning stands for itself. -/
theorem stepPattern_of_not_mem {c : Char} (h : c ∉ metacharacters) (st : ReaderState)
    (rest : List Char) :
    stepPattern st c rest = .ok (st.push ⟨literal st.flags c, 0, true⟩, rest) := by
  unfold stepPattern
  split <;> first | exact absurd (by decide) h | rfl

theorem node_joinItems (items : List Item) :
    (joinItems items).node = .seqs (items.reverse.map Item.node) := by
  unfold joinItems
  split <;> rfl

theorem depth_joinItems {items : List Item} (h : ∀ i ∈ items, i.depth = 0) :
    (joinItems items).depth ≤ 1 := by
  have hmax : ∀ items : List Item, (∀ i ∈ items, i.depth = 0) →
      (items.map Item.depth).foldl max 0 = 0 := by
    intro items hitems
    induction items with
    | nil => rfl
    | cons i items ih =>
        obtain ⟨hi, hrest⟩ := List.forall_mem_cons.1 hitems
        simpa [hi] using ih hrest
  unfold joinItems
  split
  · exact Nat.zero_le 1
  · rw [h _ (List.mem_singleton_self _)]
    exact Nat.zero_le 1
  · exact Nat.le_of_eq (by rw [hmax items h])

/-- A word is read character by character. -/
theorem readFrom_word {word : List Char} (h : ∀ c ∈ word, c ∉ metacharacters) {items : List Item}
    (hitems : ∀ i ∈ items, i.depth = 0) :
    readFrom ⟨⟨{}, [], items⟩, [], []⟩ word =
      .ok (.seqs (items.reverse.map Item.node ++ word.map fun c => .set (charSet c))) := by
  induction word generalizing items with
  | nil =>
      have hdepth : ¬ nestLimit < (joinItems items).depth :=
        Nat.not_lt.2 (Nat.le_trans (depth_joinItems hitems) (by decide))
      rw [readFrom, skipSpace]
      simp [ReaderState.finish, Frame.close, hdepth, node_joinItems]
  | cons c rest ih =>
      obtain ⟨hc, hrest⟩ := List.forall_mem_cons.1 h
      have hpush : ∀ i ∈ (⟨.set (charSet c), 0, true⟩ : Item) :: items, i.depth = 0 :=
        List.forall_mem_cons.2 ⟨rfl, hitems⟩
      have hskip : skipSpace false (c :: rest) = c :: rest := by simp [skipSpace]
      rw [readFrom]
      simp only [ReaderState.flags, hskip, stepPattern_of_not_mem hc]
      change (if rest.length < (c :: rest).length then
        readFrom ⟨⟨{}, [], ⟨.set (charSet c), 0, true⟩ :: items⟩, [], []⟩ rest else _) = _
      rw [if_pos (by simp), ih hrest hpush]
      simp

/-- **The tree of a word.** -/
theorem readPattern_word {word : List Char} (h : ∀ c ∈ word, c ∉ metacharacters) :
    readPattern (String.ofList word) = .ok (wordNode word) := by
  rw [readPattern, String.toList_ofList]
  exact readFrom_word h (by simp)

/-! ### The program -/

theorem emit_wordNode (word : List Char) :
    emit (wordNode word) 0 #[.accept] = (word.length, wordCode word) := by
  induction word with
  | nil => rfl
  | cons c rest ih =>
      cases rest with
      | nil => rfl
      | cons d rest =>
          change emit (.set (charSet c)) (emit (wordNode (d :: rest)) 0 #[.accept]).1
            (emit (wordNode (d :: rest)) 0 #[.accept]).2 = _
          rw [ih]
          simp [emit, wordCode, instrOf]

/-- **The program of a word.** -/
theorem ofNode_wordNode (word : List Char) : Program.ofNode (wordNode word) = wordProgram word := by
  rw [Program.ofNode, emit_wordNode]
  rfl

theorem getD_push (code : Array Instr) (i : Instr) (pc : Nat) :
    (code.push i).getD pc .accept = if pc = code.size then i else code.getD pc .accept := by
  simp only [Array.getD_eq_getD_getElem?, Array.getElem?_push]
  split <;> rfl

theorem getD_wordCode {word back : List Char} (h : back <:+ word) :
    (wordCode word).getD back.length .accept = instrOf back := by
  obtain ⟨front, rfl⟩ := h
  induction front with
  | nil =>
      cases back with
      | nil => rfl
      | cons c rest =>
          rw [List.nil_append, wordCode, getD_push, size_wordCode]
          exact if_pos rfl
  | cons c front ih =>
      have hlt : back.length ≠ (wordCode (front ++ back)).size := by
        simp only [size_wordCode, List.length_append]
        omega
      rw [List.cons_append, wordCode, getD_push, if_neg hlt, ih]

theorem mem_wordCode {word : List Char} {i : Instr} (h : i ∈ (wordCode word).toList) :
    i = .accept ∨ ∃ c next, i = .consume (charSet c) next := by
  induction word with
  | nil => exact Or.inl (by simpa [wordCode, instrOf] using h)
  | cons c rest ih =>
      rw [wordCode, Array.toList_push, List.mem_append, List.mem_singleton] at h
      rcases h with h | rfl
      · exact ih h
      · exact Or.inr ⟨c, _, rfl⟩

/-- A word has no assertions. -/
theorem looks_wordProgram (word : List Char) : looks (wordProgram word) = [] := by
  unfold looks
  rw [List.filterMap_eq_nil_iff.2]
  · rfl
  · intro i hi
    obtain rfl | ⟨c, next, rfl⟩ := mem_wordCode hi <;> rfl

/-! ### The search -/

/-- An instruction that takes or accepts leads to itself alone. -/
theorem reach_eq_singleton {code : Array Instr} {pc : Nat}
    (h : code.getD pc .accept = .accept ∨ ∃ s next, code.getD pc .accept = .consume s next)
    (holds : Look → Bool) : reach code holds pc = [pc] := by
  unfold reach
  rcases h with h | ⟨s, next, h⟩ <;> simp [reachFrom, h]

/-- Marks where an instruction goes on after taking a character. -/
def mark (marks : Array Bool) : Instr → Array Bool
  | .consume _ next => marks.setIfInBounds next true
  | _ => marks

theorem getD_setIfInBounds_true {marks : Array Bool} {pc : Nat} (i : Nat)
    (h : marks.getD pc false = true ∨ i = pc ∧ pc < marks.size) :
    (marks.setIfInBounds i true).getD pc false = true := by
  rw [getD_setIfInBounds]
  split
  · rfl
  · exact h.resolve_right ‹_›

/-- What is marked stays marked, and where an instruction goes on there is a mark. -/
theorem getD_foldl_mark (is : List Instr) {marks : Array Bool} {pc : Nat}
    (h : marks.getD pc false = true ∨ pc < marks.size ∧ ∃ s, .consume s pc ∈ is) :
    (is.foldl mark marks).getD pc false = true := by
  induction is generalizing marks with
  | nil => simpa using h
  | cons i is ih =>
      rw [List.foldl_cons]
      refine ih ?_
      cases i with
      | consume s next =>
          rcases h with h | ⟨hlt, s', hs'⟩
          · exact Or.inl (getD_setIfInBounds_true next (Or.inl h))
          · rcases List.mem_cons.1 hs' with heq | hs'
            · obtain ⟨rfl, rfl⟩ := Instr.consume.inj heq
              exact Or.inl (getD_setIfInBounds_true pc (Or.inr ⟨rfl, hlt⟩))
            · exact Or.inr ⟨by simpa [mark] using hlt, s', hs'⟩
      | accept => simpa [mark] using h
      | assert l next => simpa [mark] using h
      | fork first second => simpa [mark] using h

/-- A program is entered at its start, and where it goes on after taking a character. -/
theorem mem_entries {p : Program} {pc : Nat} (hlt : pc < p.code.size)
    (h : pc = p.start ∨ ∃ s, .consume s pc ∈ p.code.toList) : pc ∈ entries p := by
  have hentries : entries p = (List.range p.code.size).filter fun pc =>
      (p.code.toList.foldl mark
        ((Array.replicate p.code.size false).setIfInBounds p.start true)).getD pc false := by
    unfold entries
    rw [← Array.foldl_toList]
    rfl
  rw [hentries, List.mem_filter]
  refine ⟨List.mem_range.2 hlt, getD_foldl_mark _ ?_⟩
  rcases h with rfl | h
  · exact Or.inl (getD_setIfInBounds_true _ (Or.inr ⟨rfl, by simpa using hlt⟩))
  · exact Or.inr ⟨by simpa using hlt, h⟩

theorem lt_size_wordProgram {word back : List Char} (h : back <:+ word) :
    back.length < (wordProgram word).code.size := by
  rw [wordProgram, size_wordCode]
  exact Nat.lt_succ_of_le h.length_le

theorem mem_entries_wordProgram {word back : List Char} (h : back <:+ word) :
    back.length ∈ entries (wordProgram word) := by
  refine mem_entries (lt_size_wordProgram h) ?_
  obtain ⟨front, rfl⟩ := h
  rcases List.eq_nil_or_concat front with rfl | ⟨front, c, rfl⟩
  · exact Or.inl rfl
  · -- the instruction for the character in front goes on here
    have hsuffix : c :: back <:+ front.concat c ++ back := ⟨front, by simp⟩
    have hget := getD_wordCode hsuffix
    have hlt : (c :: back).length < (wordCode (front.concat c ++ back)).size :=
      lt_size_wordProgram hsuffix
    rw [Array.getD, dif_pos hlt] at hget
    refine Or.inr ⟨charSet c, ?_⟩
    change instrOf (c :: back) ∈ (wordCode (front.concat c ++ back)).toList
    rw [Array.mem_toList_iff, ← hget]
    exact Array.getElem_mem hlt

section

variable {p : Program} {pc : Nat} {pos : Nat} {col : Array (Option Nat)}

theorem preferredEnd_accept (h : p.code.getD pc .accept = .accept) (after : Option Char) :
    preferredEnd p after pos col [pc] = some pos := by
  simp only [preferredEnd, List.findSome?_cons, h]

/-- At the end of a text no character is taken. -/
theorem preferredEnd_consume_none {s : CodeSet} {next : Nat}
    (h : p.code.getD pc .accept = .consume s next) : preferredEnd p none pos col [pc] = none := by
  simp only [preferredEnd, List.findSome?_cons, h, List.findSome?_nil]
  cases col.getD next none <;> rfl

/-- A character of the set is taken, and the match ends where it ends behind the character. -/
theorem preferredEnd_consume_some {s : CodeSet} {next : Nat}
    (h : p.code.getD pc .accept = .consume s next) (c : Char) :
    preferredEnd p (some c) pos col [pc] =
      if s.contains c then col.getD next none else none := by
  simp only [preferredEnd, List.findSome?_cons, h, List.findSome?_nil]
  cases col.getD next none with
  | none => simp
  | some e => by_cases hc : s.contains c = true <;> simp [hc]

end

/-- **From the end of the word to its start**: what is left of the word matches exactly where it
stands next in the text. -/
theorem column_word (unicodeWord : CodeSet) {word back : List Char} (h : back <:+ word)
    (before : Option Char) (pos : Nat) (text : List Char) :
    (walk (wordProgram word) unicodeWord (entries (wordProgram word)) [] before pos
      text).column.getD back.length none =
        if back <+: text then some (pos + back.length) else none := by
  have hcode : (wordProgram word).code.getD back.length .accept = instrOf back := getD_wordCode h
  have hentry : back.length ∈ entries (wordProgram word) ∧
      back.length < (wordProgram word).code.size :=
    ⟨mem_entries_wordProgram h, lt_size_wordProgram h⟩
  induction text generalizing back before pos with
  | nil =>
      rw [column_walk_nil, getD_columnAt, if_pos hentry]
      cases back with
      | nil => rw [reach_eq_singleton (.inl hcode), preferredEnd_accept hcode]; rfl
      | cons d back =>
          rw [reach_eq_singleton (.inr ⟨_, _, hcode⟩), preferredEnd_consume_none hcode,
            if_neg (by simp)]
  | cons c text ih =>
      rw [column_walk_cons, getD_columnAt, if_pos hentry]
      cases back with
      | nil =>
          rw [reach_eq_singleton (.inl hcode), preferredEnd_accept hcode, if_pos List.nil_prefix]
          rfl
      | cons d back =>
          have hback : back <:+ word := (List.suffix_cons d back).trans h
          have hnext := ih hback (some c) (pos + 1) (getD_wordCode hback)
            ⟨mem_entries_wordProgram hback, lt_size_wordProgram hback⟩
          rw [reach_eq_singleton (.inr ⟨_, _, hcode⟩), preferredEnd_consume_some hcode, hnext]
          simp only [List.cons_prefix_cons, contains_charSet_iff]
          rw [List.length_cons, Nat.add_right_comm, Nat.add_assoc]
          by_cases hc : d = c <;> simp [hc]

/-- The program of a word finds the word. -/
theorem forbids_word (word : List Char) : Forbids ⟨wordProgram word⟩ word where
  assertionFree := looks_wordProgram word
  findAll_ne_nil := by
    rw [findAll_ne_nil_iff, ends, Program.ends, looks_wordProgram]
    refine ⟨_, mem_ends_walk none 0 word, ?_⟩
    have hstart := column_word Unicode.wordCharacters (List.suffix_refl word) none 0 word
    rw [if_pos (List.prefix_refl word)] at hstart
    exact Option.isSome_iff_exists.2 ⟨_, hstart⟩

/-- **A word matches where it stands.** -/
theorem getElem?_ends_word_iff {word text : List Char} {i e : Nat} :
    (ends ⟨wordProgram word⟩ text)[i]? = some (some e) ↔
      i ≤ text.length ∧ word <+: text.drop i ∧ e = i + word.length := by
  by_cases hi : i ≤ text.length
  · obtain ⟨before, hends⟩ := exists_ends_walk_getElem? hi none 0
    have hcolumn :=
      column_word Unicode.wordCharacters (List.suffix_refl word) before i (text.drop i)
    rw [ends, Program.ends, looks_wordProgram, hends, Nat.zero_add]
    change some ((walk (wordProgram word) _ _ [] before i _).column.getD word.length none) = _ ↔ _
    rw [hcolumn]
    by_cases hword : word <+: text.drop i <;> simp [hi, hword, eq_comm]
  · refine iff_of_false (fun h => hi ?_) fun h => hi h.1
    obtain ⟨hle, hlt⟩ := bounds_of_ends h
    exact Nat.le_trans hle hlt

/-- What a word is compiled to. -/
theorem eq_of_compile_word {word : List Char} (h : ∀ c ∈ word, c ∉ metacharacters) {r : Regex}
    (hr : compile (String.ofList word) = .ok r) : r = ⟨wordProgram word⟩ := by
  rw [compile, readPattern_word h] at hr
  simp only at hr
  split at hr
  · cases hr
  · obtain rfl := Except.ok.inj hr
    rw [ofNode_wordNode]

end Regex

namespace Pattern

/-- What the pattern of a word is compiled to. -/
theorem eq_of_compile {word : List Char} (h : ∀ c ∈ word, c ∉ Regex.metacharacters)
    (hhead : ∀ c ∈ word.head?, c ∉ delimiters) {r : Regex}
    (hr : compile (String.ofList word) = .ok r) : r = ⟨Regex.wordProgram word⟩ := by
  have hbare : splitDelimited word = none := by
    cases word with
    | nil => rfl
    | cons c rest =>
        have hc : delimiters.contains c = false := by simpa using hhead c rfl
        rw [splitDelimited, hc]
        rfl
  have hregex : Regex.compile (String.ofList word) = .ok r := by
    rw [compile, String.toList_ofList, source, hbare] at hr
    change (Regex.compile (String.ofList word)).mapError Fault.regex = .ok r at hr
    cases hcompiled : Regex.compile (String.ofList word) with
    | error e =>
        rw [hcompiled] at hr
        cases hr
    | ok r' =>
        rw [hcompiled] at hr
        exact congrArg Except.ok (Except.ok.inj hr)
  exact Regex.eq_of_compile_word h hregex

/-- **The pattern of a word finds the word.** -/
theorem forbids_of_compile {word : List Char} (h : ∀ c ∈ word, c ∉ Regex.metacharacters)
    (hhead : ∀ c ∈ word.head?, c ∉ delimiters) {r : Regex}
    (hr : compile (String.ofList word) = .ok r) : r.Forbids word :=
  eq_of_compile h hhead hr ▸ Regex.forbids_word word

end Pattern

end StandardsGate
