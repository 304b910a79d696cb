import StandardsGate.Proofs.Diff.OnePass
import StandardsGate.Proofs.Diff.Ranges
import StandardsGate.Proofs.Run.Sources
import StandardsGate.Proofs.Text.Lossy

/-!
Diffs as bytes.

What a line of a diff is, and which number it gives, can be told from its bytes: the marks at the
front of lines and the ranges of headers are text below 128, and decoding leaves that where it
stands. So a diff can be cut into lines, and these can be told apart and numbered, before anything is
decoded; only the paths and texts that are kept have to be decoded then.

Main definitions:

* `Mark` — what a line of a diff is, with the piece of it that is kept;
* `Mark.ofLine`, `Mark.ofBytes` — the mark of a line of text, and of a line of bytes;
* `Mark.numbers` — the numbers under which lines are registered, in terms of their marks;
* `Scan.obey` — what a line does, in terms of its mark.

Main results:

* `HunkHeader.newStart?_decodeChars` — decoding keeps the number of a header;
* `Mark.ofLine_decodeChars` — **decoding keeps what a line is**;
* `Scan.step_eq_obey`, `Scan.numbers_eq` — one pass over a diff needs only the marks of its lines;
* `DiffSource.result_of_bytes` — **a diff can be read before it is decoded**.
-/

namespace StandardsGate

open HunkHeader (isHeader newStart? numberLimit)

/-- What a line of a diff is, told by what it begins with, and the piece of it that is kept. -/
inductive Mark (τ : Type)
  /-- It begins the section of a file. -/
  | file (path : τ)
  /-- It begins a hunk, at the number that it gives. -/
  | header (line : τ) (start : Option Nat)
  /-- It is added, if it stands in a hunk. -/
  | added (text : τ)
  | other
deriving DecidableEq, Repr

namespace Mark

variable {τ σ : Type}

/-- The mark with another piece of the line. -/
def map (f : τ → σ) : Mark τ → Mark σ
  | file path => file (f path)
  | header line start => header (f line) start
  | added text => added (f text)
  | other => other

/-- What a line of text is. -/
def ofLine (line : List Char) : Mark (List Char) :=
  match Diff.pathOf? line with
  | some path => file path
  | none =>
    if isHeader line then header line (newStart? line)
    else match line with
      | '+' :: text => added text
      | _ => other

/-- What stands in a line of bytes behind the bytes of a text. -/
def behind? (text : List Char) (line : Bytes) : Option Bytes :=
  let bytes := text.flatMap Utf8.encodeChar
  if bytes.isPrefixOf line then some (line.drop bytes.length) else none

/-- What a line of bytes is. The ranges of a header are looked for byte by byte. -/
def ofBytes (line : Bytes) : Mark Bytes :=
  match behind? Diff.fileMarker line with
  | some path => file path
  | none =>
    match behind? HunkHeader.marker line with
    | some _ => header line (newStart? (Utf8.single line))
    | none =>
      match behind? ['+'] line with
      | some text => added text
      | none => other

/-- The number of the next added line behind a line, once a hunk has begun; there is no such thing
before the first file. -/
def numberAfter (m : Mark τ) (place : Option (Option Nat)) : Option (Option Nat) :=
  match m with
  | file _ => some none
  | header _ start => place.map fun _ => some (start.getD 0)
  | added _ => place.map fun next => next.map (· + 1)
  | other => place

/-- The number under which a line is registered, if it is. -/
def number? (m : Mark τ) (place : Option (Option Nat)) : Option Nat :=
  match m with
  | added _ => place.join
  | _ => none

/-- The numbers under which lines are registered, line by line. -/
def numbersFrom (place : Option (Option Nat)) : List (Mark τ) → List (Option Nat)
  | [] => []
  | m :: rest => m.number? place :: numbersFrom (m.numberAfter place) rest

/-- The numbers under which the lines of a diff are registered, line by line. -/
def numbers (ms : List (Mark τ)) : List (Option Nat) := numbersFrom none ms

/-! ### Decoding -/

/-- What stands behind the bytes of a text is what stands, decoded, behind the text. -/
theorem behind?_cases {text : List Char} (h : Utf8.IsPlain text) (line : Bytes) :
    (∃ rest, behind? text line = some rest ∧
        Utf8.decodeChars line = text ++ Utf8.decodeChars rest) ∨
      behind? text line = none ∧ ¬ text <+: Utf8.decodeChars line := by
  unfold behind?
  by_cases hbytes : text.flatMap Utf8.encodeChar <+: line
  · obtain ⟨rest, rfl⟩ := hbytes
    refine Or.inl ⟨rest, ?_, Utf8.decodeChars_encoded text rest⟩
    rw [if_pos (List.isPrefixOf_iff_prefix.2 (List.prefix_append ..)), List.drop_left]
  · refine Or.inr ⟨?_, mt (Utf8.isPrefix_decodeChars_iff h line).1 hbytes⟩
    rw [if_neg (mt List.isPrefixOf_iff_prefix.1 hbytes)]

end Mark

/-! ### Numbers of headers -/

namespace HunkHeader

/-- Ranges are text below 128. -/
theorem isPlain_closed {ds text : List Char} (h : IsRange ds text) :
    Utf8.IsPlain (text ++ closing) := by
  have hdigit : ∀ c : Char, c.isDigit = true → c.toNat < 0x80 := by
    intro c hc
    have hbounds : 48 ≤ c.toNat ∧ c.toNat ≤ 57 := Char.isDigit_iff_toNat.1 hc
    omega
  obtain ⟨⟨-, hds⟩, count, hcount, rfl⟩ := h
  intro c hc
  rw [List.mem_append, List.mem_append] at hc
  rcases hc with (hc | hc) | hc
  · exact hdigit c (hds c hc)
  · rcases hcount with rfl | ⟨es, ⟨-, hes⟩, rfl⟩
    · cases hc
    · rcases List.mem_cons.1 hc with rfl | hc
      · decide
      · exact hdigit c (hes c hc)
  · have hclosing : closing.all (fun c => decide (c.toNat < 0x80)) = true := by decide
    exact of_decide_eq_true (List.all_eq_true.1 hclosing c hc)

/-- Decoding keeps ranges. -/
theorem rangeStart?_decodeChars (bs : Bytes) :
    rangeStart? (Utf8.decodeChars bs) = rangeStart? (Utf8.single bs) := by
  have hbegins : ∀ ds, BeginsWithRange ds (Utf8.decodeChars bs) ↔
      BeginsWithRange ds (Utf8.single bs) := by
    intro ds
    refine exists_congr fun text => and_congr_right fun htext => ?_
    rw [Utf8.isPrefix_decodeChars_iff (isPlain_closed htext),
      Utf8.isPrefix_single_iff (isPlain_closed htext)]
  refine Option.ext fun n => ?_
  rw [rangeStart?_eq_some_iff, rangeStart?_eq_some_iff]
  exact exists_congr fun ds => and_congr_left fun _ => hbegins ds

/-- Decoding keeps where the first range begins. -/
theorem firstStart?_decodeChars (bs : Bytes) :
    firstStart? (Utf8.decodeChars bs) = firstStart? (Utf8.single bs) := by
  induction bs using Utf8.decodeChars_induct with
  | nil =>
      rw [Utf8.decodeChars_nil]
      rfl
  | low b rest hb ih =>
      rw [Utf8.decodeChars_low hb, Utf8.single, List.map_cons, firstStart?, firstStart?,
        rangeStart?_decodeChars rest, ih]
      rfl
  | high block rest c hblock hc hdecoded ih =>
      have hplus : c ≠ '+' := by
        rintro rfl
        exact absurd hc (by decide)
      have hblockplus : '+' ∉ Utf8.single block := fun hmem =>
        absurd (Utf8.le_of_mem_single hblock hmem) (by decide)
      have hsingle : Utf8.single (block ++ rest) = Utf8.single block ++ Utf8.single rest :=
        List.map_append
      rw [hdecoded, firstStart?, if_neg hplus, ih, hsingle, firstStart?_append hblockplus]

/-- **Decoding keeps the number of a header.** -/
theorem newStart?_decodeChars (bs : Bytes) :
    newStart? (Utf8.decodeChars bs) = newStart? (Utf8.single bs) := by
  unfold newStart?
  rw [firstStart?_decodeChars]

end HunkHeader

namespace Mark

/-- **Decoding keeps what a line is**, and the piece of it that is kept. -/
theorem ofLine_decodeChars (line : Bytes) :
    ofLine (Utf8.decodeChars line) = (ofBytes line).map Utf8.decodeChars := by
  have hplain : ∀ text ∈ [Diff.fileMarker, HunkHeader.marker, ['+']], Utf8.IsPlain text := by
    simp [Utf8.IsPlain, Diff.fileMarker, HunkHeader.marker]
  unfold ofLine ofBytes
  rcases behind?_cases (hplain Diff.fileMarker (by simp)) line with
    ⟨path, hpath, hline⟩ | ⟨hnone, hline⟩
  · have hfile : Diff.pathOf? (Utf8.decodeChars line) = some (Utf8.decodeChars path) := by
      rw [hline, Diff.pathOf?, if_pos (List.isPrefixOf_iff_prefix.2 (List.prefix_append ..)),
        List.drop_left]
    rw [hfile, hpath]
    rfl
  have hfile : Diff.pathOf? (Utf8.decodeChars line) = none :=
    if_neg (mt List.isPrefixOf_iff_prefix.1 hline)
  rw [hfile, hnone]
  dsimp only
  rcases behind?_cases (hplain HunkHeader.marker (by simp)) line with
    ⟨rest, hrest, hline⟩ | ⟨hnone, hline⟩
  · have hheader : isHeader (Utf8.decodeChars line) = true := by
      rw [hline]
      exact List.isPrefixOf_iff_prefix.2 (List.prefix_append ..)
    rw [if_pos hheader, hrest, HunkHeader.newStart?_decodeChars]
    rfl
  have hheader : ¬ isHeader (Utf8.decodeChars line) = true := mt List.isPrefixOf_iff_prefix.1 hline
  rw [if_neg hheader, hnone]
  dsimp only
  rcases behind?_cases (hplain ['+'] (by simp)) line with ⟨text, htext, hline⟩ | ⟨hnone, hline⟩
  · rw [htext, hline]
    rfl
  · rw [hnone]
    split
    · rename_i text heq
      exact absurd (heq ▸ List.prefix_append ['+'] text) hline
    · rfl

/-- The marks of lines that begin no section. -/
theorem ofLine_cases {line : List Char} (h : Diff.pathOf? line = none) :
    isHeader line = true ∧ ofLine line = header line (newStart? line) ∨
      isHeader line = false ∧
        ((∃ text, line = '+' :: text ∧ ofLine line = added text) ∨
          (∀ text, line ≠ '+' :: text) ∧ ofLine line = other) := by
  cases hheader : isHeader line with
  | true => exact Or.inl ⟨rfl, by simp [ofLine, h, hheader]⟩
  | false =>
      refine Or.inr ⟨rfl, ?_⟩
      by_cases hplus : ∃ text, line = '+' :: text
      · obtain ⟨text, rfl⟩ := hplus
        exact Or.inl ⟨text, rfl, by simp [ofLine, h, hheader]⟩
      · have hother : ∀ text, line ≠ '+' :: text := fun text htext => hplus ⟨text, htext⟩
        exact Or.inr ⟨hother, by simp [ofLine, h, hheader]⟩

/-- Which numbers lines get does not depend on the pieces that are kept. -/
theorem numbersFrom_map (f : τ → σ) (place : Option (Option Nat)) (ms : List (Mark τ)) :
    numbersFrom place (ms.map (map f)) = numbersFrom place ms := by
  induction ms generalizing place with
  | nil => rfl
  | cons m ms ih =>
      have hnumber : (m.map f).number? place = m.number? place := by cases m <;> rfl
      have hafter : (m.map f).numberAfter place = m.numberAfter place := by cases m <;> rfl
      rw [List.map_cons, numbersFrom, numbersFrom, hnumber, hafter, ih]

end Mark

/-! ### One pass -/

namespace Scan

/-- What a line does, in terms of its mark. -/
def obey (s : Scan) (m : Mark (List Char)) : Scan :=
  match m, s.current with
  | .file path, _ => s.openFile (Diff.nameOf path)
  | _, none => s
  | .header _ (some start), some _ => s.openHunk start
  | .header line none, some f => (s.note f.name (String.ofList line)).openHunk 0
  | .added text, some f =>
    if s.inHunk then
      { s with current := some (f.register (s.start + s.index) (String.ofList text))
               index := s.index + 1 }
    else s
  | .other, some _ => s

/-- Where a state stands: the number of the next added line, once there is a file and a hunk. -/
def place (s : Scan) : Option (Option Nat) := s.current.map fun _ => s.next

/-- **One step needs only the mark of the line**: what the line does, which number it gets, and where
the numbers go on. -/
theorem step_eq_obey (s : Scan) (line : List Char) :
    s.step line = s.obey (Mark.ofLine line) ∧ s.number? line = (Mark.ofLine line).number? s.place ∧
      (s.step line).place = (Mark.ofLine line).numberAfter s.place := by
  obtain ⟨done, current, inHunk, start, index⟩ := s
  cases hpath : Diff.pathOf? line with
  | some path =>
      have hmark : Mark.ofLine line = .file path := by simp [Mark.ofLine, hpath]
      rw [hmark]
      simp [step, obey, number?, Mark.number?, Mark.numberAfter, place, next, openFile, hpath]
  | none =>
      rcases Mark.ofLine_cases hpath with
        ⟨hheader, hmark⟩ | ⟨hheader, ⟨text, rfl, hmark⟩ | ⟨hother, hmark⟩⟩ <;> rw [hmark]
      · have hplus : ∀ text, line ≠ '+' :: text := by
          rintro text rfl
          cases hheader
        cases current with
        | none => simp [step, obey, number?, Mark.number?, Mark.numberAfter, place, hpath]
        | some f =>
            cases hstart : newStart? line <;>
              simp [step, obey, number?, Mark.number?, Mark.numberAfter, place, next, openHunk, note,
                hpath, hheader, hstart, hplus]
      · cases current with
        | none => simp [step, obey, number?, Mark.number?, Mark.numberAfter, place, hpath]
        | some f =>
            cases inHunk <;>
              simp [step, obey, number?, Mark.number?, Mark.numberAfter, place, next, hpath, hheader,
                Nat.add_assoc]
      · cases current with
        | none => simp [step, obey, number?, Mark.number?, Mark.numberAfter, place, hpath]
        | some f =>
            simp [step, obey, number?, Mark.number?, Mark.numberAfter, place, hpath, hheader, hother]

/-- **One pass needs only the marks of the lines.** -/
theorem foldl_step_eq (s : Scan) (lines : List (List Char)) :
    lines.foldl step s = (lines.map Mark.ofLine).foldl obey s := by
  rw [List.foldl_map]
  exact congrArg (fun f => lines.foldl f s) (funext fun s => funext fun line => (s.step_eq_obey line).1)

/-- The numbers under which lines are registered, in terms of their marks. -/
theorem numbers_eq (s : Scan) (lines : List (List Char)) :
    s.numbers lines = (Mark.numbersFrom s.place (lines.map Mark.ofLine)).reduceOption := by
  induction lines generalizing s with
  | nil => rfl
  | cons line rest ih =>
      obtain ⟨-, hnumber, hplace⟩ := s.step_eq_obey line
      rw [numbers, ih, List.map_cons, Mark.numbersFrom, hnumber, hplace]
      cases (Mark.ofLine line).number? s.place <;> rfl

end Scan

/-! ### Decoding late -/

namespace Diff

/-- The marks of the lines of bytes. -/
def marks (bs : Bytes) : List (Mark Bytes) := (bs.splitOn 0x0A).map Mark.ofBytes

/-- The diff that is made of marks. -/
def ofMarks (ms : List (Mark (List Char))) : Diff := (ms.foldl Scan.obey Scan.initial).close

/-- The marks of the decoded lines are those of the lines of bytes. -/
theorem map_ofLine_decoded (bs : Bytes) :
    (Text.splitOn '\n' (Utf8.decodeChars bs)).map Mark.ofLine =
      (marks bs).map (Mark.map Utf8.decodeChars) := by
  rw [Utf8.splitOn_decodeChars, marks, List.map_map, List.map_map]
  exact List.map_congr_left fun line _ => Mark.ofLine_decodeChars line

/-- The numbers under which the decoded lines are registered come from the bytes. -/
theorem numbers_decoded (bs : Bytes) :
    Scan.initial.numbers (Text.splitOn '\n' (Utf8.decodeChars bs)) =
      (Mark.numbers (marks bs)).reduceOption := by
  rw [Scan.numbers_eq, map_ofLine_decoded, Mark.numbersFrom_map]
  rfl

/-- **The diff of decoded bytes** is made of their marks, unless a number gets too large. -/
theorem parse_decodeLossy (bs : Bytes) (d : Diff) :
    parse (Utf8.decodeLossy bs) = .ok d ↔
      (∀ n ∈ (Mark.numbers (marks bs)).reduceOption, n < numberLimit) ∧
        ofMarks ((marks bs).map (Mark.map Utf8.decodeChars)) = d := by
  have hresume : parse (Utf8.decodeLossy bs) =
      Scan.initial.resume (Text.splitOn '\n' (Utf8.decodeChars bs)) := by
    rw [parse, Utf8.decodeLossy, String.toList_ofList]
    exact parseChars_eq_foldlM_readings _
  rw [hresume, Scan.resume_eq_ok_iff, numbers_decoded, Scan.foldl_step_eq, map_ofLine_decoded]
  rfl

end Diff

namespace DiffSource

open Diff (marks ofMarks)

/-- **A diff can be read before it is decoded**, if it comes from git or from a file. The lines of the
decoded text are the decoded lines of the bytes, one for one. Each of them is what its bytes are: it
begins the section of a file, or a hunk at some number, or with a plus sign, or none of these, and the
piece of it that is kept is the decoded piece of the bytes. Each is registered under the number that
it gets from the bytes, and the diff is made of the lines of bytes, of which only the pieces that are
kept are decoded; there is none exactly if a number has more than 64 bits. -/
theorem result_of_bytes {source : DiffSource} {h : Host} {bs : Bytes}
    (hsource : source ≠ standardInput) (hoffers : source.Offers h bs) :
    Text.splitOn '\n' (Utf8.decodeLossy bs).toList = (bs.splitOn 0x0A).map Utf8.decodeChars ∧
      (∀ line ∈ bs.splitOn 0x0A,
        Mark.ofLine (Utf8.decodeChars line) = (Mark.ofBytes line).map Utf8.decodeChars) ∧
      Scan.initial.numbers (Text.splitOn '\n' (Utf8.decodeLossy bs).toList) =
        (Mark.numbers (marks bs)).reduceOption ∧
      ∀ d, source.result h = .ok d ↔
        (∀ n ∈ (Mark.numbers (marks bs)).reduceOption, n < numberLimit) ∧
          ofMarks ((marks bs).map (Mark.map Utf8.decodeChars)) = d := by
  rw [Utf8.decodeLossy, String.toList_ofList]
  refine ⟨Utf8.splitOn_decodeChars bs, fun line _ => Mark.ofLine_decodeChars line,
    Diff.numbers_decoded bs, fun d => ?_⟩
  rw [result_of_offers hoffers, if_neg fun hinput => hsource hinput.1, Git.readDiff,
    mapError_eq_ok_iff, Diff.parse_decodeLossy]

/-- A diff with a character that is broken off at the end of a line. -/
def brokenBytes : Bytes :=
  Utf8.encode "+++ b/a.js\n@@ -0,0 +7,2 @@\n+price " ++ [0xE2, 0x82] ++ Utf8.encode "\n+x\n"

/-- The line behind a character that is broken off is added like any other. -/
theorem result_brokenBytes :
    staged "/g" ≠ standardInput ∧ (staged "/g").Offers (offering brokenBytes) brokenBytes ∧
      Mark.numbers (marks brokenBytes) = [none, none, some 7, some 8, none] ∧
      ∃ d, (staged "/g").result (offering brokenBytes) = .ok d ∧
        d.files.toList.map (fun f => (f.name, f.lines.entries)) =
          [("a.js", [(7, "price \uFFFD"), (8, "x")])] := by
  have hsource : staged "/g" ≠ standardInput := by simp
  have hoffers := (offers_offering brokenBytes).2.2
  have hnumbers : Mark.numbers (marks brokenBytes) = [none, none, some 7, some 8, none] ∧
      (ofMarks ((marks brokenBytes).map (Mark.map Utf8.decodeChars))).files.toList.map
        (fun f => (f.name, f.lines.entries)) = [("a.js", [(7, "price \uFFFD"), (8, "x")])] := by
    decide +kernel
  refine ⟨hsource, hoffers, hnumbers.1, _, ((result_of_bytes hsource hoffers).2.2.2 _).2 ⟨?_, rfl⟩,
    hnumbers.2⟩
  rw [hnumbers.1]
  decide

end DiffSource

end StandardsGate
