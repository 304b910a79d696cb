import StandardsGate.Proofs.Diff.Joining
import StandardsGate.Proofs.Diff.Rendering

/-!
What the patches of a diff do to each other.

A patch whose `+++ ` line does not name a file the way the parser looks for is read as a part of
the section in front of it. Since that line itself begins with a plus sign, this goes unnoticed
only where no hunk has begun.

Main definitions:

* `Diff.Extends`, `Diff.ReadingsExtend` — edits with more behind them;
* `Diff.Section.IsOpen` — whether a section has a hunk;
* `Patch.Confined` — whether no foreign patch says anything in a section in front of it.

Main results:

* `Patch.readings_flatMap_eq_iff` — **when patches are read as on their own**;
* `Patch.parse_textAll` — what this means for the diff of all of them.
-/

namespace StandardsGate

open Text (Line)

namespace Diff

open HunkHeader (isHeader newStart?)

/-! ### More edits -/

/-- Whether edits are others with more behind them, or too many to be numbered. -/
def Extends (less more : Option Edits) : Prop :=
  more = none ∨ ∃ e x, less = some e ∧ more = some (e ++ x)

theorem Extends.refl (e : Option Edits) : Extends e e := by
  cases e with
  | none => exact Or.inl rfl
  | some e => exact Or.inr ⟨e, ∅, rfl, by simp⟩

theorem Extends.trans {a b c : Option Edits} (hab : Extends a b) (hbc : Extends b c) :
    Extends a c := by
  rcases hbc with rfl | ⟨e, x, rfl, rfl⟩
  · exact Or.inl rfl
  · rcases hab with h | ⟨e', x', rfl, he⟩
    · cases h
    · obtain rfl : e = e' ++ x' := Option.some.inj he
      exact Or.inr ⟨e', x' ++ x, rfl, by rw [Edits.append_assoc]⟩

theorem Extends.antisymm {a b : Option Edits} (hab : Extends a b) (hba : Extends b a) : a = b := by
  rcases hab with rfl | ⟨e, x, rfl, rfl⟩
  · rcases hba with rfl | ⟨e, x, h, -⟩
    · rfl
    · cases h
  · rcases hba with h | ⟨e', x', he', he⟩
    · cases h
    · obtain rfl : e ++ x = e' := Option.some.inj he'
      have hnil : x ++ x' = ∅ := by
        rw [← Edits.append_eq_left (a := e), ← Edits.append_assoc]
        exact (Option.some.inj he).symm
      rw [Edits.eq_empty_of_append hnil, Edits.append_empty]

theorem extends_readBody_append (next : Option Nat) (xs ys : List (List Char)) :
    Extends (readBody next xs) (readBody next (xs ++ ys)) := by
  rw [readBody_append]
  cases readBody next xs with
  | none => exact Or.inl rfl
  | some e =>
      cases readBody (numberBehind next xs) ys with
      | none => exact Or.inl rfl
      | some x => exact Or.inr ⟨e, x, rfl, rfl⟩

/-- Whether readings are of the same files as others, with more behind their edits. -/
def ReadingsExtend : List Reading → List Reading → Prop :=
  List.Forall₂ fun r s => r.file = s.file ∧ Extends r.edits s.edits

theorem ReadingsExtend.refl (rs : List Reading) : ReadingsExtend rs rs :=
  List.forall₂_same.2 fun r _ => ⟨rfl, Extends.refl r.edits⟩

theorem ReadingsExtend.trans {as bs cs : List Reading} (hab : ReadingsExtend as bs)
    (hbc : ReadingsExtend bs cs) : ReadingsExtend as cs := by
  induction hab generalizing cs with
  | nil => exact hbc
  | cons h _ ih =>
      cases hbc with
      | cons h' hrest => exact .cons ⟨h.1.trans h'.1, h.2.trans h'.2⟩ (ih hrest)

theorem ReadingsExtend.antisymm {as bs : List Reading} (hab : ReadingsExtend as bs)
    (hba : ReadingsExtend bs as) : as = bs := by
  have heq : List.Forall₂ (· = ·) as bs := by
    refine List.Forall₂.mp ?_ hab hba.flip
    rintro ⟨file, edits⟩ ⟨file', edits'⟩ ⟨hfile, hedits⟩ ⟨-, hedits'⟩
    cases hfile
    cases hedits.antisymm hedits'
    rfl
  rwa [List.forall₂_eq_eq_eq] at heq

theorem readingsExtend_extendLast (more : List (List Char)) (ss : List Section) :
    ReadingsExtend (ss.map Section.reading) ((extendLast more ss).map Section.reading) := by
  induction ss with
  | nil => exact .nil
  | cons s ss ih =>
      cases ss with
      | nil => exact .cons ⟨rfl, extends_readBody_append none s.body more⟩ .nil
      | cons t ss => exact .cons ⟨rfl, Extends.refl _⟩ ih

/-! ### What is read behind a section -/

/-- Whether a hunk has begun in a section. -/
def Section.IsOpen (s : Section) : Prop := ∃ l ∈ s.body, isHeader l = true

instance (s : Section) : Decidable s.IsOpen := inferInstanceAs (Decidable (∃ l ∈ s.body, _))

theorem isSome_numberBehind_some (number : Nat) (lines : List (List Char)) :
    (numberBehind (some number) lines).isSome := by
  induction lines generalizing number with
  | nil => rfl
  | cons line rest ih =>
      change (numberBehind (numberAfter (some number) line) rest).isSome
      unfold numberAfter
      cases role line with
      | header start => exact ih _
      | added text => exact ih _
      | idle => exact ih _

/-- Lines are counted from the first hunk on. -/
theorem numberBehind_none_iff (lines : List (List Char)) :
    numberBehind none lines = none ↔ ∀ l ∈ lines, isHeader l = false := by
  induction lines with
  | nil => simp [numberBehind]
  | cons line rest ih =>
      rw [List.forall_mem_cons, ← ih]
      change numberBehind (numberAfter none line) rest = none ↔ _
      cases hline : isHeader line with
      | true =>
          -- from the first header on there is always a number
          have hnext : numberAfter none line = some ((newStart? line).getD 0) := by
            simp [numberAfter, role_of_isHeader hline]
          have hsome := isSome_numberBehind_some ((newStart? line).getD 0) rest
          rw [hnext]
          simp [Option.isSome_iff_ne_none.1 hsome]
      | false =>
          have hnext : numberAfter none line = none := by
            unfold numberAfter
            rcases role_of_not_isHeader hline with h | ⟨text, h⟩
            · rw [h]
            · rw [h]
              rfl
          rw [hnext]
          simp

theorem Section.numberBehind_body_eq_none_iff (s : Section) :
    numberBehind none s.body = none ↔ ¬ s.IsOpen := by
  rw [numberBehind_none_iff, IsOpen]
  simp

/-- What stands behind the last section changes nothing exactly if it says nothing there. -/
theorem map_reading_extendLast_iff {more : List (List Char)} {ss : List Section}
    (h : ∀ s ∈ ss, s.reading.edits.isSome) :
    (extendLast more ss).map Section.reading = ss.map Section.reading ↔
      ∀ s ∈ ss.getLast?, readBody (numberBehind none s.body) more = some ∅ := by
  induction ss with
  | nil => simp [extendLast]
  | cons s ss ih =>
      cases ss with
      | nil =>
          obtain ⟨e, he⟩ := Option.isSome_iff_exists.1 (h s (List.mem_cons_self ..))
          have hbody : readBody none s.body = some e := he
          -- edits with nothing more behind them are the same edits
          have hlast : readBody none (s.body ++ more) = readBody none s.body ↔
              readBody (numberBehind none s.body) more = some ∅ := by
            rw [readBody_append, hbody]
            cases readBody (numberBehind none s.body) more with
            | none => simp
            | some x => simp [Edits.append_eq_left]
          simp [extendLast, Section.reading, Section.name, hlast]
      | cons t ss =>
          rw [extendLast, List.map_cons, List.map_cons, List.cons_inj_right,
            ih fun s hs => h s (List.mem_cons_of_mem _ hs), List.getLast?_cons_cons]

end Diff

namespace Patch

open Diff (Section readBody numberBehind)

/-- What a foreign patch leaves to others says nothing only where no hunk has begun. -/
theorem readBody_cut_of_foreign {p : Patch} (h : p.IsForeign) (next : Option Nat) :
    readBody next (Diff.cut p.rawLines).1 = some ∅ ↔
      next = none ∧ readBody none (Diff.cut p.rawLines).1 = some ∅ := by
  obtain ⟨target, body, hcontent, hforeign⟩ := h
  obtain ⟨text, htarget⟩ : ∃ text, target.line.chars = '+' :: text := by
    cases target <;> exact ⟨_, rfl⟩
  rw [cut_of_foreign hcontent hforeign]
  simp only [Diff.readBody_idle_append p.role_header, htarget]
  cases next with
  | none => simp
  | some number =>
      -- in a hunk the `+++ ` line of the patch is itself an added line
      rw [Diff.readBody_cons]
      simp only [Diff.readLine, Diff.role_added]
      by_cases hlt : number < HunkHeader.numberLimit
      · cases readBody (Diff.numberAfter (some number) ('+' :: text))
            (Diff.cut (body.map Line.chars)).1 with
        | none => simp [hlt]
        | some e => simp [hlt, Diff.Edits.append_def, show (∅ : Diff.Edits) = ⟨[], []⟩ from rfl]
      · simp [hlt]

/-- Whether a patch does nothing to the section that it stands behind: if it is foreign, no hunk
has begun in that section, and what the patch leaves to it says nothing there. -/
def IsSilentBehind (p : Patch) (front : List (List Char)) : Prop :=
  p.IsForeign → ∀ s ∈ (Diff.sections front).getLast?,
    ¬ s.IsOpen ∧ readBody none (Diff.cut p.rawLines).1 = some ∅

theorem isSilentBehind_iff (p : Patch) (front : List (List Char)) :
    p.IsSilentBehind front ↔ ∀ s ∈ (Diff.sections front).getLast?,
      readBody (numberBehind none s.body) (Diff.cut p.rawLines).1 = some ∅ := by
  unfold IsSilentBehind
  by_cases h : p.IsForeign
  · simp only [h, true_imp_iff, readBody_cut_of_foreign h (numberBehind none _),
      Section.numberBehind_body_eq_none_iff]
  · have hidle : ∀ next, readBody next (Diff.cut p.rawLines).1 = some ∅ := fun next => by
      simpa using Diff.readBody_idle_append (role_of_mem_cut h) next []
    simp [h, hidle]

/-- Whether no patch does anything to a section in front of it. -/
def Confined (ps : List Patch) : Prop :=
  ∀ front p back, ps = front ++ p :: back → p.IsSilentBehind (front.flatMap rawLines)

theorem confined_append_singleton (ps : List Patch) (p : Patch) :
    Confined (ps ++ [p]) ↔ Confined ps ∧ p.IsSilentBehind (ps.flatMap rawLines) := by
  constructor
  · intro h
    refine ⟨fun front q back hsplit => h front q (back ++ [p]) ?_, h ps p [] rfl⟩
    rw [hsplit, List.append_assoc, List.cons_append]
  · rintro ⟨hps, hp⟩ front q back hsplit
    -- the patch is the last one, or stands among those in front of it
    rcases List.eq_nil_or_concat back with rfl | ⟨back, r, rfl⟩
    · obtain ⟨rfl, hq⟩ := List.append_inj' hsplit rfl
      obtain rfl : p = q := List.singleton_inj.1 hq
      exact hp
    · rw [List.concat_eq_append, ← List.cons_append, ← List.append_assoc] at hsplit
      exact hps front q back (List.append_inj' hsplit rfl).1

/-- Behind other patches, a patch can only add to what they say. -/
theorem readingsExtend_flatMap (ps : List Patch) :
    Diff.ReadingsExtend (ps.flatMap fun p => Diff.readings p.rawLines)
      (Diff.readings (ps.flatMap rawLines)) := by
  induction ps using List.reverseRecOn with
  | nil => exact Diff.ReadingsExtend.refl []
  | append_singleton ps p ih =>
      rw [List.flatMap_append, List.flatMap_append, List.flatMap_singleton,
        List.flatMap_singleton, Diff.readings_append]
      exact List.rel_append (ih.trans (Diff.readingsExtend_extendLast _ _))
        (Diff.ReadingsExtend.refl _)

/-- **When patches are read as on their own**: exactly if no patch does anything to a section in
front of it. -/
theorem readings_flatMap_eq_iff {ps : List Patch}
    (h : ∀ p ∈ ps, ∀ r ∈ Diff.readings p.rawLines, r.edits.isSome) :
    Diff.readings (ps.flatMap rawLines) = (ps.flatMap fun p => Diff.readings p.rawLines) ↔
      Confined ps := by
  induction ps using List.reverseRecOn with
  | nil => exact ⟨fun _ front p back hsplit => by simp at hsplit, fun _ => rfl⟩
  | append_singleton ps p ih =>
      have hps : ∀ q ∈ ps, ∀ r ∈ Diff.readings q.rawLines, r.edits.isSome :=
        fun q hq => h q (List.mem_append_left _ hq)
      rw [List.flatMap_append, List.flatMap_append, List.flatMap_singleton,
        List.flatMap_singleton, Diff.readings_append, List.append_cancel_right_eq,
        confined_append_singleton, ← ih hps, isSilentBehind_iff]
      have hfront := readingsExtend_flatMap ps
      have hback := Diff.readingsExtend_extendLast (Diff.cut p.rawLines).1
        (Diff.sections (ps.flatMap rawLines))
      have hsome : Diff.readings (ps.flatMap rawLines) =
            (ps.flatMap fun q => Diff.readings q.rawLines) →
          ∀ s ∈ Diff.sections (ps.flatMap rawLines), s.reading.edits.isSome := by
        intro heq s hs
        have hmem : s.reading ∈ Diff.readings (ps.flatMap rawLines) := List.mem_map_of_mem hs
        rw [heq] at hmem
        obtain ⟨q, hq, hr⟩ := List.mem_flatMap.1 hmem
        exact hps q hq _ hr
      constructor
      · intro heq
        -- the readings lie between those of the patches and those with more behind them
        rw [heq] at hback
        have hreadings : Diff.readings (ps.flatMap rawLines) =
            ps.flatMap fun q => Diff.readings q.rawLines := hback.antisymm hfront
        refine ⟨hreadings, (Diff.map_reading_extendLast_iff (hsome hreadings)).1 ?_⟩
        exact heq.trans hreadings.symm
      · rintro ⟨hreadings, hlast⟩
        exact ((Diff.map_reading_extendLast_iff (hsome hreadings)).2 hlast).trans hreadings

/-! ### The diff of patches -/

theorem parse_text (p : Patch) :
    Diff.parse p.text = (Diff.readings p.rawLines).foldlM Diff.addReading ⟨∅, []⟩ :=
  Diff.parse_unlines p.lines

theorem parse_textAll_eq (ps : List Patch) :
    Diff.parse (textAll ps) =
      (Diff.readings (ps.flatMap rawLines)).foldlM Diff.addReading ⟨∅, []⟩ := by
  rw [textAll, Diff.parse_unlines, List.map_flatMap]
  rfl

theorem parseEach_map_text (ps : List Patch) :
    Diff.parseEach (ps.map text) =
      (ps.flatMap fun p => Diff.readings p.rawLines).foldlM Diff.addReading ⟨∅, []⟩ := by
  rw [Diff.parseEach, List.foldlM_map, Diff.foldlM_flatMap_addReading]
  simp only [parse_text]

/-- **Patches one behind the other.** If each patch has a diff on its own, the sections of all of
them say what they say on their own exactly if no patch does anything to a section in front of it;
and then the diff of all of them is that of each, put together in order. -/
theorem parse_textAll {ps : List Patch} (h : ∀ p ∈ ps, ∃ d, Diff.parse p.text = .ok d) :
    (Diff.readings (ps.flatMap rawLines) = (ps.flatMap fun p => Diff.readings p.rawLines) ↔
      Confined ps) ∧
    (Confined ps →
      ∃ d, Diff.parse (textAll ps) = .ok d ∧ Diff.parseEach (ps.map text) = .ok d) := by
  have hsome : ∀ p ∈ ps, ∀ r ∈ Diff.readings p.rawLines, r.edits.isSome := by
    intro p hp
    obtain ⟨d, hd⟩ := h p hp
    exact Diff.isSome_of_foldlM_addReading (p.parse_text ▸ hd)
  refine ⟨readings_flatMap_eq_iff hsome, fun hconfined => ?_⟩
  have hall : ∀ r ∈ ps.flatMap fun p => Diff.readings p.rawLines, r.edits.isSome := by
    intro r hr
    obtain ⟨p, hp, hr⟩ := List.mem_flatMap.1 hr
    exact hsome p hp r hr
  rw [parse_textAll_eq, parseEach_map_text, (readings_flatMap_eq_iff hsome).2 hconfined]
  exact ⟨_, Diff.foldlM_addReading hall _, Diff.foldlM_addReading hall _⟩

/-- What git prints of a new file. -/
def newHeader : List Line := [.first "new file mode 100644", .first "--- /dev/null"]

theorem plain_newHeader : ∀ l ∈ newHeader, l.IsPlain := by decide

/-- A new file. -/
def newPlain : Patch where
  opening := .first "a/a.js b/a.js"
  header := newHeader
  plain := plain_newHeader
  content := some (.file (.first "a.js"),
    [.first "@@ -0,0 +1 @@", .first "+log(1)"])

/-- A new file with a letter in its name that is quoted. -/
def newQuoted : Patch where
  opening := .first "\"a/\\303\\251.js\" \"b/\\303\\251.js\""
  header := newHeader
  plain := plain_newHeader
  content := some (.quoted (.first "\\303\\251.js\""),
    [.first "@@ -0,0 +1 @@", .first "+x"])

theorem isSilentBehind_newPlain (front : List (List Char)) : newPlain.IsSilentBehind front := by
  rintro ⟨target, body, hcontent, hforeign⟩
  obtain ⟨rfl, -⟩ := Prod.mk.inj (Option.some.inj hcontent)
  exact absurd rfl (hforeign _)

/-- In front of the other file, the file with the quoted name does nothing to it. -/
theorem parse_textAll_newQuoted_newPlain :
    (∀ p ∈ [newQuoted, newPlain], ∃ d, Diff.parse p.text = .ok d) ∧ Confined [newQuoted, newPlain] ∧
      ∃ d, Diff.parse (textAll [newQuoted, newPlain]) = .ok d ∧
        Diff.parseEach ([newQuoted, newPlain].map text) = .ok d := by
  have hparse : ∀ p ∈ [newQuoted, newPlain], ∃ d, Diff.parse p.text = .ok d := by
    have hsome : ∀ p ∈ [newQuoted, newPlain], ∀ r ∈ Diff.readings p.rawLines, r.edits.isSome := by
      decide
    exact fun p hp => ⟨_, p.parse_text.trans (Diff.foldlM_addReading (hsome p hp) _)⟩
  have hconfined : Confined [newQuoted, newPlain] := by
    refine (confined_append_singleton [newQuoted] newPlain).2 ⟨?_, isSilentBehind_newPlain _⟩
    refine (confined_append_singleton [] newQuoted).2 ⟨?_, ?_⟩
    · intro front p back hsplit
      simp at hsplit
    · intro _ s hs
      cases hs
  exact ⟨hparse, hconfined, (parse_textAll hparse).2 hconfined⟩

/-- **Behind a hunk, the file with the quoted name adds its lines to the other file**, and in the
place of one of its lines. -/
theorem leaking_newQuoted :
    textAll [newPlain, newQuoted] =
        "diff --git a/a.js b/a.js\nnew file mode 100644\n--- /dev/null\n+++ b/a.js\n" ++
          "@@ -0,0 +1 @@\n+log(1)\n" ++
          "diff --git \"a/\\303\\251.js\" \"b/\\303\\251.js\"\nnew file mode 100644\n" ++
          "--- /dev/null\n+++ \"b/\\303\\251.js\"\n@@ -0,0 +1 @@\n+x\n" ∧
      (Diff.parse (textAll [newPlain, newQuoted])).map
          (fun d => d.files.toList.map fun f => (f.name, f.lines.entries)) =
        .ok [("a.js", [(1, "x"), (2, "++ \"b/\\303\\251.js\"")])] ∧
      (Diff.parseEach ([newPlain, newQuoted].map text)).map
          (fun d => d.files.toList.map fun f => (f.name, f.lines.entries)) =
        .ok [("a.js", [(1, "log(1)")])] := by
  refine ⟨by decide +kernel, ?_, ?_⟩
  · rw [parse_textAll_eq]
    decide +kernel
  · rw [parseEach_map_text]
    decide +kernel

end Patch

end StandardsGate
