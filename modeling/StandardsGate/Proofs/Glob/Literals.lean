import StandardsGate.Glob.Reader
import StandardsGate.Proofs.Text.Utf8

/-!
Patterns that name a directory.

A character that has no meaning of its own in a pattern is read as itself, and two stars behind a
slash at the end stand for everything below. So the pattern of a directory has a literal for each
character of its name and one recursive part, and it matches the paths that go on behind the name
and a slash, character by character although the path is given in bytes.

Main definitions:

* `Glob.IsLiteralText` — a text whose characters all stand for themselves.

Main results:

* `Glob.readFrom_stars`, `Glob.readFrom_class` — the reader never stops short behind stars or a class;
* `Glob.parse_below` — **how the pattern of a directory is read**;
* `Glob.isMatch_below_iff` — **what it matches**.
-/

namespace StandardsGate.Glob

/-- The characters that have a meaning in patterns. -/
def metacharacters : List Char := ['*', '?', '[', ']', '{', '}']

/-- Whether all characters of a text stand for themselves in a pattern. -/
def IsLiteralText (cs : List Char) : Prop := ∀ c ∈ cs, c ∉ metacharacters ∧ c ≠ '\\'

/-! ### Reading -/

/-- Outside of braces a character without a meaning is read as itself. -/
theorem readFrom_literal {st : ReaderState} (hst : st.inBraces = false) {c : Char}
    (hc : c ∉ metacharacters ∧ c ≠ '\\') (before : Option Char) (rest : List Char) :
    readFrom st before (c :: rest) = readFrom (st.push (.literal c)) (some c) rest := by
  obtain ⟨hmeta, hescape⟩ := hc
  simp only [metacharacters, List.mem_cons, not_or] at hmeta
  obtain ⟨hstar, hquestion, hopen, -, hbrace, hclose, -⟩ := hmeta
  rw [readFrom.eq_def]
  split <;> simp_all

/-- A text without a meaning is read as itself. -/
theorem readFrom_literals {cs : List Char} (h : IsLiteralText cs) {st : ReaderState}
    (hst : st.inBraces = false) (before : Option Char) (rest : List Char) :
    ∃ last, readFrom st before (cs ++ rest) =
      readFrom { st with parts := (cs.map Part.literal).reverse ++ st.parts } last rest := by
  induction cs generalizing st before with
  | nil => exact ⟨before, rfl⟩
  | cons c cs ih =>
      obtain ⟨hc, hcs⟩ := List.forall_mem_cons.1 h
      have hpushed : (st.push (.literal c)).inBraces = false := hst
      obtain ⟨last, hlast⟩ := ih hcs hpushed (some c)
      refine ⟨last, ?_⟩
      rw [List.cons_append, readFrom_literal hst hc, hlast]
      simp [ReaderState.push]

/-- Behind two stars the reader always goes on: what it looks at afterwards is no longer. -/
theorem readFrom_stars (st : ReaderState) (before : Option Char) (rest : List Char) :
    readFrom st before ('*' :: '*' :: rest) =
      readFrom (readStars st before rest).1
        (if (readStars st before rest).2.length < rest.length then some '/' else some '*')
        (readStars st before rest).2 := by
  rw [readFrom.eq_def]
  exact if_pos (length_readStars_le st before rest)

/-- Behind a class that is closed the reader always goes on: a class has something in it. -/
theorem readFrom_class {p : Part} {rest after : List Char} (h : readClass rest = .ok (p, after))
    (st : ReaderState) (before : Option Char) :
    readFrom st before ('[' :: rest) = readFrom (st.push p) (some ']') after := by
  rw [readFrom.eq_def]
  simp only [h]
  exact if_pos (length_readClass h)

/-- Two stars behind a slash at the end take its place. -/
theorem readFrom_subtree {st : ReaderState} (hst : st.inBraces = false) :
    readFrom (st.push (.literal '/')) (some '/') ['*', '*'] =
      .ok (st.parts.reverse ++ [.subtree]) := by
  have hend : readFrom (st.push .subtree) (some '*') [] = .ok (st.push .subtree).parts.reverse := by
    have hopen : ¬ (st.push .subtree).inBraces = true := by
      change ¬ st.inBraces = true
      rw [hst]
      exact Bool.false_ne_true
    rw [readFrom, if_neg hopen]
    rfl
  have hstars : readStars (st.push (.literal '/')) (some '/') [] = (st.push .subtree, []) := rfl
  rw [readFrom_stars, hstars, if_neg (Nat.lt_irrefl _), hend]
  simp [ReaderState.push]

/-- **How the pattern of a directory is read.** -/
theorem parse_below {cs : List Char} (h : IsLiteralText cs) :
    parse (String.ofList (cs ++ ['/', '*', '*'])) = .ok ⟨cs.map Part.literal ++ [.subtree]⟩ := by
  have hslash : '/' ∉ metacharacters ∧ '/' ≠ '\\' := by decide
  have hinit : ReaderState.inBraces {} = false := rfl
  obtain ⟨last, hlast⟩ := readFrom_literals h hinit none ['/', '*', '*']
  rw [parse, String.toList_ofList, hlast, readFrom_literal rfl hslash, readFrom_subtree rfl]
  simp only [List.append_nil, List.reverse_reverse]
  rfl

/-! ### Matching -/

/-- What may be left after a part and those behind it. -/
theorem mem_residuals_cons {p : Part} {parts : List Part} {path r : List UInt8} :
    r ∈ residuals (p :: parts) path ↔ ∃ q ∈ partResiduals p path, r ∈ residuals parts q := by
  rw [residuals, List.mem_eraseDups, List.mem_flatMap]

theorem mem_takeLiteral {lit path r : List UInt8} : r ∈ takeLiteral lit path ↔ path = lit ++ r := by
  unfold takeLiteral
  by_cases h : lit.isPrefixOf path = true
  · obtain ⟨rest, rfl⟩ := List.isPrefixOf_iff_prefix.1 h
    rw [if_pos h, List.drop_left, List.mem_singleton, List.append_cancel_left_eq, eq_comm]
  · rw [if_neg h]
    constructor
    · intro hr
      cases hr
    · rintro rfl
      exact absurd (List.isPrefixOf_iff_prefix.2 ⟨r, rfl⟩) h

/-- Literals take the bytes of their characters. -/
theorem mem_residuals_literals {cs : List Char} {parts : List Part} {path r : List UInt8} :
    r ∈ residuals (cs.map Part.literal ++ parts) path ↔
      ∃ rest, path = cs.flatMap Utf8.encodeChar ++ rest ∧ r ∈ residuals parts rest := by
  induction cs generalizing path with
  | nil => simp
  | cons c cs ih =>
      rw [List.map_cons, List.cons_append, mem_residuals_cons]
      simp only [partResiduals, mem_takeLiteral, ih]
      constructor
      · rintro ⟨_, rfl, rest, rfl, hr⟩
        exact ⟨rest, by simp, hr⟩
      · rintro ⟨rest, rfl, hr⟩
        exact ⟨cs.flatMap Utf8.encodeChar ++ rest, by simp, rest, rfl, hr⟩

theorem nil_mem_tails (path : List UInt8) : [] ∈ tails path := by
  induction path with
  | nil => simp [tails]
  | cons b path ih => simp [tails, ih]

/-- The recursive part at the end takes a slash and whatever stands behind it. -/
theorem nil_mem_residuals_subtree {path : List UInt8} :
    [] ∈ residuals [.subtree] path ↔ ∃ rest, path = slash :: rest := by
  rw [mem_residuals_cons]
  simp only [partResiduals, List.mem_flatMap, mem_takeLiteral, residuals, List.mem_singleton]
  constructor
  · rintro ⟨_, ⟨rest, rfl, -⟩, -⟩
    exact ⟨rest, rfl⟩
  · rintro ⟨rest, rfl⟩
    exact ⟨[], ⟨rest, rfl, nil_mem_tails rest⟩, rfl⟩

/-- **What the pattern of a directory matches**: the paths that go on behind its name and a
slash. -/
theorem isMatch_below_iff {cs : List Char} (path : String) :
    isMatch ⟨cs.map Part.literal ++ [.subtree]⟩ (Utf8.encode path) = true ↔
      cs ++ ['/'] <+: path.toList := by
  have hdot : endsInDot (cs.map Part.literal ++ [.subtree]) = false := by
    simp [endsInDot]
  have hslash : ['/'].flatMap Utf8.encodeChar = [slash] := by decide
  have hmatch : isMatch ⟨cs.map Part.literal ++ [.subtree]⟩ (Utf8.encode path) =
      (residuals (cs.map Part.literal ++ [.subtree]) (Utf8.encode path)).contains [] := by
    unfold isMatch
    split
    · rename_i hparts
      cases cs <;> cases hparts
    · rw [hdot, Bool.and_false, Bool.false_and, Bool.not_false, Bool.and_true]
  rw [hmatch, List.contains_iff_mem, mem_residuals_literals, ← Utf8.flatMap_encodeChar_isPrefix_iff,
    List.flatMap_append, hslash]
  simp only [nil_mem_residuals_subtree]
  constructor
  · rintro ⟨_, hpath, rest, rfl⟩
    exact ⟨rest, by rw [← Utf8.encode, hpath]; simp⟩
  · rintro ⟨rest, hpath⟩
    exact ⟨slash :: rest, by rw [Utf8.encode, ← hpath]; simp, rest, rfl⟩

end StandardsGate.Glob
