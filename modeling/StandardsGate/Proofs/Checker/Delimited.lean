import StandardsGate.Checker.Pattern
import StandardsGate.Text.Utf8
import Mathlib.Data.List.TakeWhile

/-!
Patterns between delimiters.

A pattern is delimited if it begins with a delimiter that comes again with nothing but letters
behind it. Since no delimiter is a letter, the one that counts is the last one, so there is only one
way to read a pattern as delimited, whatever stands in its body. The text of a pattern is kept in
bytes, and it is taken apart at byte offsets. These never lie outside the text or inside a
character.

Main definitions:

* `Text.slice?` — the part of a text between two byte offsets;
* `Pattern.IsDelimited` — the patterns that are delimited, with their bodies and flags;
* `Pattern.splitSliced?` — the body and the flags of a pattern, taken at byte offsets.

Main results:

* `Pattern.splitDelimited_eq_some_iff` — **which patterns are delimited**;
* `Pattern.IsDelimited.unique` — a pattern is delimited in one way only;
* `Pattern.splitSliced?_eq` — **byte offsets are well chosen**;
* `Pattern.compile_exact` — what a pattern is compiled to.
-/

namespace StandardsGate

/-! ### Byte offsets -/

namespace Text

/-- The number of bytes of a text. -/
def width (cs : List Char) : Nat := (cs.flatMap Utf8.encodeChar).length

theorem width_append (cs ds : List Char) : width (cs ++ ds) = width cs + width ds := by
  simp [width]

theorem width_cons (c : Char) (cs : List Char) : width (c :: cs) = width [c] + width cs :=
  width_append [c] cs

theorem width_singleton_pos (c : Char) : 0 < width [c] := by
  simp only [width, List.flatMap_singleton, Utf8.encodeChar]
  split
  · simp
  · split
    · simp
    · split <;> simp

/-- A text cut at a byte offset; `none` if the offset lies outside the text or inside a
character. -/
def cutAt? : List Char → Nat → Option (List Char × List Char)
  | cs, 0 => some ([], cs)
  | [], _ + 1 => none
  | c :: rest, n + 1 =>
    if n + 1 < width [c] then none
    else (cutAt? rest (n + 1 - width [c])).map fun p => (c :: p.1, p.2)

/-- A text can be cut at an offset exactly if a part of it ends there. -/
theorem cutAt?_eq_some_iff {cs front back : List Char} {n : Nat} :
    cutAt? cs n = some (front, back) ↔ cs = front ++ back ∧ width front = n := by
  induction cs generalizing n front with
  | nil =>
      cases n with
      | zero => cases front <;> simp [cutAt?, width, eq_comm]
      | succ n => cases front <;> simp [cutAt?, width]
  | cons c rest ih =>
      have hpos := width_singleton_pos c
      cases n with
      | zero =>
          cases front with
          | nil => simp [cutAt?, width, eq_comm]
          | cons d front =>
              have hd := width_singleton_pos d
              have hne : width (d :: front) ≠ 0 := by
                rw [width_cons]
                omega
              simp [cutAt?, hne]
      | succ n =>
          rw [cutAt?]
          cases front with
          | nil => simp [width]
          | cons d front =>
              rw [Option.ite_none_left_eq_some, Option.map_eq_some_iff, width_cons d front]
              constructor
              · rintro ⟨hle, ⟨part, back'⟩, hcut, heq⟩
                obtain ⟨hparts, rfl⟩ := Prod.mk.inj heq
                obtain ⟨rfl, rfl⟩ := List.cons.inj hparts
                obtain ⟨rfl, hwidth⟩ := ih.1 hcut
                refine ⟨rfl, ?_⟩
                dsimp only at hwidth ⊢
                omega
              · rintro ⟨heq, hwidth⟩
                obtain ⟨rfl, hrest⟩ := List.cons.inj heq
                exact ⟨by omega, (front, back), ih.2 ⟨hrest, by omega⟩, rfl⟩

/-- The part of a text between two byte offsets; `none` if they are in the wrong order, or if one of
them lies outside the text or inside a character. -/
def slice? (cs : List Char) (start stop : Nat) : Option (List Char) := do
  let front ← cutAt? cs stop
  let back ← cutAt? front.1 start
  return back.2

/-- A part of a text is what stands between its ends. -/
theorem slice?_eq_some_iff {cs part : List Char} {start stop : Nat} :
    slice? cs start stop = some part ↔
      ∃ before behind, cs = before ++ (part ++ behind) ∧ width before = start ∧
        start + width part = stop := by
  unfold slice?
  rw [Option.bind_eq_bind, Option.bind_eq_some_iff]
  constructor
  · rintro ⟨⟨front, behind⟩, hstop, h⟩
    obtain ⟨⟨before, back⟩, hstart, heq⟩ := Option.bind_eq_some_iff.1 h
    obtain rfl : back = part := Option.some.inj heq
    obtain ⟨rfl, rfl⟩ := cutAt?_eq_some_iff.1 hstop
    obtain ⟨rfl, rfl⟩ := cutAt?_eq_some_iff.1 hstart
    exact ⟨before, behind, List.append_assoc .., rfl, (width_append before back).symm⟩
  · rintro ⟨before, behind, rfl, rfl, rfl⟩
    have hstop : cutAt? (before ++ (part ++ behind)) (width before + width part) =
        some (before ++ part, behind) :=
      cutAt?_eq_some_iff.2 ⟨(List.append_assoc ..).symm, width_append before part⟩
    have hstart : cutAt? (before ++ part) (width before) = some (before, part) :=
      cutAt?_eq_some_iff.2 ⟨rfl, rfl⟩
    exact ⟨_, hstop, Option.bind_eq_some_iff.2 ⟨_, hstart, rfl⟩⟩

/-- The byte offset of the last occurrence of a character. -/
def lastOffset? (c : Char) : List Char → Option Nat
  | [] => none
  | x :: rest =>
    match lastOffset? c rest with
    | some n => some (width [x] + n)
    | none => if x = c then some 0 else none

theorem lastOffset?_eq_none {c : Char} {cs : List Char} (h : c ∉ cs) : lastOffset? c cs = none := by
  induction cs with
  | nil => rfl
  | cons x rest ih =>
      obtain ⟨hx, hrest⟩ := not_or.1 (mt List.mem_cons.2 h)
      rw [lastOffset?, ih hrest]
      exact if_neg (Ne.symm hx)

/-- The last occurrence stands where no other follows. -/
theorem lastOffset?_append {c : Char} {back : List Char} (h : c ∉ back) (front : List Char) :
    lastOffset? c (front ++ c :: back) = some (width front) := by
  induction front with
  | nil =>
      rw [List.nil_append, lastOffset?, lastOffset?_eq_none h]
      exact if_pos rfl
  | cons x front ih =>
      rw [List.cons_append, lastOffset?, ih]
      exact congrArg some (width_cons x front).symm

end Text

namespace Pattern

/-! ### Which patterns are delimited -/

theorem not_isAlpha_of_mem_delimiters {d : Char} (h : d ∈ delimiters) : d.isAlpha = false := by
  have hall : delimiters.all (fun d => !d.isAlpha) = true := by decide
  simpa using List.all_eq_true.1 hall d h

theorem width_delimiter {d : Char} (h : d ∈ delimiters) : Text.width [d] = 1 := by
  have hall : delimiters.all (fun d => Text.width [d] == 1) = true := by decide
  simpa using List.all_eq_true.1 hall d h

/-- Whether a pattern is delimited, with a body and flags: it is a delimiter, the body, the delimiter
again, and letters. -/
def IsDelimited (raw body flags : List Char) : Prop :=
  ∃ d ∈ delimiters, raw = d :: (body ++ d :: flags) ∧ ∀ f ∈ flags, f.isAlpha = true

theorem bne_of_mem_reverse {d : Char} {cs : List Char} (h : d ∉ cs) :
    ∀ c ∈ cs.reverse, (c != d) = true := by
  intro c hc
  have hne : c ≠ d := by
    rintro rfl
    exact h (List.mem_reverse.1 hc)
  simpa using hne

/-- What stands behind the last occurrence of a character, if there is one. -/
theorem reverse_takeWhile_ne_append {d : Char} {back : List Char} (h : d ∉ back)
    (front : List Char) : ((front ++ d :: back).reverse.takeWhile (· != d)).reverse = back := by
  have hreverse : (front ++ d :: back).reverse = back.reverse ++ d :: front.reverse := by simp
  rw [hreverse, List.takeWhile_append_of_pos (bne_of_mem_reverse h),
    List.takeWhile_cons_of_neg (by simp), List.append_nil, List.reverse_reverse]

/-- A character that a text has stands somewhere last. -/
theorem exists_last {d : Char} {cs : List Char} (h : d ∈ cs) :
    ∃ front back, cs = front ++ d :: back ∧ d ∉ back := by
  obtain ⟨back, front, hreverse, hback⟩ := List.eq_append_cons_of_mem (List.mem_reverse.2 h)
  refine ⟨front.reverse, back.reverse, ?_, mt List.mem_reverse.1 hback⟩
  rw [← List.reverse_reverse cs, hreverse]
  simp

/-- A delimiter that does not come again delimits nothing. -/
theorem splitDelimited_of_not_mem {d : Char} {rest : List Char} (h : d ∉ rest) :
    splitDelimited (d :: rest) = none := by
  have hflags : (rest.reverse.takeWhile (· != d)).reverse = rest := by
    rw [List.takeWhile_eq_self_iff.2 (bne_of_mem_reverse h), List.reverse_reverse]
  unfold splitDelimited
  simp only [hflags, if_true]
  split <;> rfl

/-- What stands in front of the last delimiter is the body, if there are only letters behind it. -/
theorem splitDelimited_append {d : Char} (hd : d ∈ delimiters) {flags : List Char} (h : d ∉ flags)
    (body : List Char) :
    splitDelimited (d :: (body ++ d :: flags)) =
      if flags.all Char.isAlpha then some (body, flags) else none := by
  have hlength : ¬ flags.length = (body ++ d :: flags).length := by
    simp only [List.length_append, List.length_cons]
    omega
  have hbody : (body ++ d :: flags).length - flags.length - 1 = body.length := by
    simp only [List.length_append, List.length_cons]
    omega
  unfold splitDelimited
  simp only [reverse_takeWhile_ne_append h body, if_neg hlength, hbody, List.take_left]
  rw [if_neg (by simpa using hd)]
  cases flags.all Char.isAlpha <;> rfl

theorem splitDelimited_of_not_mem_delimiters {d : Char} (h : d ∉ delimiters) (rest : List Char) :
    splitDelimited (d :: rest) = none :=
  if_pos (by simpa using h)

/-- **Which patterns are delimited.** -/
theorem splitDelimited_eq_some_iff {raw body flags : List Char} :
    splitDelimited raw = some (body, flags) ↔ IsDelimited raw body flags := by
  constructor
  · intro h
    cases raw with
    | nil => cases h
    | cons d rest =>
        by_cases hd : d ∈ delimiters
        · by_cases hagain : d ∈ rest
          · obtain ⟨front, back, rfl, hback⟩ := exists_last hagain
            rw [splitDelimited_append hd hback] at h
            obtain ⟨hletters, hparts⟩ := Option.ite_none_right_eq_some.1 h
            obtain ⟨rfl, rfl⟩ := Prod.mk.inj (Option.some.inj hparts)
            exact ⟨d, hd, rfl, List.all_eq_true.1 hletters⟩
          · rw [splitDelimited_of_not_mem hagain] at h
            cases h
        · rw [splitDelimited_of_not_mem_delimiters hd] at h
          cases h
  · rintro ⟨d, hd, rfl, hletters⟩
    -- a delimiter is no letter, so the one behind the body is the last one
    have hlast : d ∉ flags := by
      intro hmem
      have hletter := hletters d hmem
      rw [not_isAlpha_of_mem_delimiters hd] at hletter
      cases hletter
    rw [splitDelimited_append hd hlast, if_pos (List.all_eq_true.2 hletters)]

/-- **A pattern is delimited in one way only.** -/
theorem IsDelimited.unique {raw body flags body' flags' : List Char}
    (h : IsDelimited raw body flags) (h' : IsDelimited raw body' flags') :
    body = body' ∧ flags = flags' := by
  rw [← splitDelimited_eq_some_iff] at h h'
  exact Prod.mk.inj (Option.some.inj (h.symm.trans h'))

/-! ### Taking a pattern apart at byte offsets -/

/-- The body and the flags of a pattern, taken at the byte offsets of its delimiters. The outer
answer is `none` if an offset lies outside the text or inside a character. -/
def splitSliced? : List Char → Option (Option (List Char × List Char))
  | [] => some none
  | d :: rest =>
    if !delimiters.contains d then some none
    else
      let stop := (Text.lastOffset? d (d :: rest)).getD 0
      if stop = 0 then some none
      else do
        let flags ← Text.slice? (d :: rest) (stop + 1) (Text.width (d :: rest))
        if !flags.all Char.isAlpha then return none
        let body ← Text.slice? (d :: rest) 1 stop
        return some (body, flags)

/-- **Byte offsets are well chosen**: none of them lies outside the text or inside a character, and
what stands between them are the body and the flags. -/
theorem splitSliced?_eq (raw : List Char) : splitSliced? raw = some (splitDelimited raw) := by
  cases raw with
  | nil => rfl
  | cons d rest =>
      by_cases hd : d ∈ delimiters
      · have hwidth := width_delimiter hd
        rw [splitSliced?, if_neg (by simpa using hd)]
        by_cases hagain : d ∈ rest
        · obtain ⟨body, flags, rfl, hlast⟩ := exists_last hagain
          obtain ⟨stop, hstop⟩ : ∃ stop, Text.width (d :: body) = stop + 1 :=
            ⟨Text.width body, by rw [Text.width_cons, hwidth, Nat.add_comm]⟩
          have hoffset : Text.lastOffset? d (d :: (body ++ d :: flags)) = some (stop + 1) := by
            rw [← hstop]
            exact Text.lastOffset?_append hlast (d :: body)
          -- the body stands between the delimiters, the flags behind the last one
          have hbody : Text.slice? (d :: (body ++ d :: flags)) 1 (stop + 1) = some body := by
            refine Text.slice?_eq_some_iff.2 ⟨[d], d :: flags, rfl, hwidth, ?_⟩
            rw [← hstop, Text.width_cons, hwidth]
          have hflags : Text.slice? (d :: (body ++ d :: flags)) (stop + 1 + 1)
              (Text.width (d :: (body ++ d :: flags))) = some flags := by
            refine Text.slice?_eq_some_iff.2 ⟨d :: body ++ [d], [], by simp, ?_, ?_⟩
            · rw [Text.width_append, hwidth, hstop]
            · rw [← List.cons_append, Text.width_append, Text.width_cons d flags, hwidth, hstop]
              omega
          rw [hoffset, splitDelimited_append hd hlast, Option.getD_some,
            if_neg (Nat.succ_ne_zero stop), hflags, hbody]
          simp only [Option.bind_eq_bind, Option.bind_some]
          cases flags.all Char.isAlpha <;> rfl
        · -- the delimiter in front is the only one, and it stands at the offset 0
          have hoffset : Text.lastOffset? d (d :: rest) = some 0 :=
            Text.lastOffset?_append hagain []
          rw [hoffset, splitDelimited_of_not_mem hagain]
          rfl
      · rw [splitDelimited_of_not_mem_delimiters hd]
        exact if_pos (by simpa using hd)

/-! ### Flags -/

/-- The letters that are flags. -/
def flagLetters : List Char := ['i', 'm', 's', 'x', 'u']

theorem mem_flagLetters_iff {f : Char} :
    f ∈ flagLetters ↔ ['i', 'm', 's', 'x'].contains f = true ∨ f = 'u' := by
  simp [flagLetters, or_assoc]

/-- The first letter that is no flag is told. -/
theorem inlineFlags_of_unknown {f : Char} {before : List Char}
    (hbefore : ∀ c ∈ before, c ∈ flagLetters) (hf : f ∉ flagLetters) (behind : List Char) :
    inlineFlags (before ++ f :: behind) = .error (.unknownFlag f) := by
  induction before with
  | nil =>
      obtain ⟨hinline, hunicode⟩ := not_or.1 (mt mem_flagLetters_iff.2 hf)
      rw [List.nil_append, inlineFlags, if_neg hinline, if_neg hunicode]
  | cons c before ih =>
      obtain ⟨hc, hrest⟩ := List.forall_mem_cons.1 hbefore
      rw [List.cons_append, inlineFlags, ih hrest]
      by_cases hinline : ['i', 'm', 's', 'x'].contains c = true
      · rw [if_pos hinline]
        rfl
      · have hunicode : c = 'u' := (mem_flagLetters_iff.1 hc).resolve_left hinline
        rw [if_neg hinline, if_pos hunicode]

/-- Flags that are all known are kept, except for the one that is always on. -/
theorem inlineFlags_of_known {flags : List Char} (h : ∀ f ∈ flags, f ∈ flagLetters) :
    inlineFlags flags = .ok (flags.filter (· ≠ 'u')) := by
  induction flags with
  | nil => rfl
  | cons f flags ih =>
      obtain ⟨hf, hrest⟩ := List.forall_mem_cons.1 h
      rw [inlineFlags, ih hrest]
      by_cases hunicode : f = 'u'
      · subst hunicode
        rfl
      · have hinline := (mem_flagLetters_iff.1 hf).resolve_right hunicode
        rw [if_pos hinline, List.filter_cons_of_pos (by simpa using hunicode)]
        rfl

/-! ### What a pattern is compiled to -/

/-- The text of a regular expression: the body, with flags in front of it if there are some. -/
def flagged (inline body : List Char) : String :=
  String.ofList (if inline = [] then body else ['(', '?'] ++ inline ++ ')' :: body)

/-- The regular expression of a text. -/
def compileText (text : String) : Except Fault Regex := (Regex.compile text).mapError .regex

theorem compile_of_source {raw : String} {text : List Char} (h : source raw.toList = .ok text) :
    compile raw = compileText (String.ofList text) := by
  unfold compile
  rw [h]
  rfl

/-- **What a pattern is compiled to.** It is taken apart at byte offsets that lie in the text and
between characters. It has a body and flags exactly if it is a delimiter, the body, the delimiter
again and letters, and it has them in one way only. Then the first letter that is no flag is an error
that names it, and without such a letter the body is compiled with the flags in front of it, but for
the one that is always on. Every other pattern is compiled as it is. -/
theorem compile_exact (raw : String) :
    splitSliced? raw.toList = some (splitDelimited raw.toList) ∧
      (∀ body flags, splitDelimited raw.toList = some (body, flags) ↔
        IsDelimited raw.toList body flags) ∧
      (∀ body flags body' flags', IsDelimited raw.toList body flags →
        IsDelimited raw.toList body' flags' → body = body' ∧ flags = flags') ∧
      (∀ body flags, IsDelimited raw.toList body flags →
        (∀ before f behind, flags = before ++ f :: behind → (∀ c ∈ before, c ∈ flagLetters) →
          f ∉ flagLetters → compile raw = .error (.unknownFlag f) ∧
            (Fault.unknownFlag f).message = "unsupported pattern flag '" ++ f.toString ++ "'") ∧
        ((∀ f ∈ flags, f ∈ flagLetters) →
          compile raw = compileText (flagged (flags.filter (· ≠ 'u')) body))) ∧
      ((∀ body flags, ¬ IsDelimited raw.toList body flags) → compile raw = compileText raw) := by
  refine ⟨splitSliced?_eq _, fun _ _ => splitDelimited_eq_some_iff, fun _ _ _ _ => IsDelimited.unique,
    fun body flags h => ⟨?_, fun hflags => ?_⟩, fun h => ?_⟩
  · rintro before f behind rfl hbefore hf
    have hsplit := splitDelimited_eq_some_iff.2 h
    refine ⟨?_, rfl⟩
    rw [compile, source, hsplit]
    dsimp only
    rw [inlineFlags_of_unknown hbefore hf]
    rfl
  · have hsource : source raw.toList =
        .ok (if flags.filter (· ≠ 'u') = [] then body
          else ['(', '?'] ++ flags.filter (· ≠ 'u') ++ ')' :: body) := by
      rw [source, splitDelimited_eq_some_iff.2 h]
      dsimp only
      rw [inlineFlags_of_known hflags]
      cases flags.filter (· ≠ 'u') <;> rfl
    rw [compile_of_source hsource]
    rfl
  · have hnone : splitDelimited raw.toList = none := by
      cases hsplit : splitDelimited raw.toList with
      | none => rfl
      | some parts => exact absurd (splitDelimited_eq_some_iff.1 hsplit) (h _ _)
    have hsource : source raw.toList = .ok raw.toList := by
      rw [source, hnone]
    rw [compile_of_source hsource, String.ofList_toList]

/-- A pattern whose body has the delimiter and a character of two bytes, one with a letter that is no
flag, and a path. -/
theorem compile_exact_paths :
    compile "#a#é#iu" = compileText "(?i)a#é" ∧
      compile "|é|uex" = .error (.unknownFlag 'e') ∧
      compile "/api/v1" = compileText "/api/v1" := by
  obtain ⟨-, -, -, hdelimited, -⟩ := compile_exact "#a#é#iu"
  obtain ⟨-, -, -, hunknown, -⟩ := compile_exact "|é|uex"
  obtain ⟨-, hsplit, -, -, hbare⟩ := compile_exact "/api/v1"
  have hiu : ['i', 'u'].all Char.isAlpha = true := by decide
  have huex : ['u', 'e', 'x'].all Char.isAlpha = true := by decide
  have hflags := (hdelimited ['a', '#', 'é'] ['i', 'u']
    ⟨'#', by decide, rfl, List.all_eq_true.1 hiu⟩).2 (by simp [flagLetters])
  have hletter := (hunknown ['é'] ['u', 'e', 'x'] ⟨'|', by decide, rfl, List.all_eq_true.1 huex⟩).1
    ['u'] 'e' ['x'] rfl (by simp [flagLetters]) (by simp [flagLetters])
  refine ⟨hflags, hletter.1, hbare fun body flags h => ?_⟩
  cases (hsplit body flags).2 h

end Pattern

end StandardsGate
