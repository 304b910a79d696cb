import StandardsGate.Proofs.Diff.Reading

/-!
Reading a diff by slices.

A diff can be read without its lines: the marker `+++ b/` is searched in the whole text, the
occurrences at the beginning of a line are kept, and the text is sliced between one of them and the
next. A slice begins with the path of a file, and what stands behind the first line feed is the body
of its section. Positions count characters.

Main definitions:

* `Diff.occurrencesFrom` — where a pattern occurs, from left to right and without overlaps;
* `Diff.sectionStarts`, `Diff.slices` — where sections begin, and what lies between two beginnings;
* `Diff.parseSlices` — the diff that is made of the slices.

Main results:

* `Diff.sectionStarts_eq` — the kept occurrences are where a line begins with the marker;
* `Diff.slices_sectionStarts` — the slices are the pieces into which these places cut the text;
* `Diff.sliced_pieces` — **line by line**: the pieces hold what the sections hold;
* `Diff.parseChars_eq_parseSlices` — **both ways to read a text give the same**.
-/

namespace StandardsGate.Diff

open Text (splitOn joinWith)

/-- Where a pattern occurs in a text whose first character is at `pos`. The first `skip` characters
belong to the last occurrence, and occurrences do not overlap. -/
def occurrencesFrom (pattern : List Char) : Nat → Nat → List Char → List Nat
  | _, _, [] => []
  | skip + 1, pos, _ :: rest => occurrencesFrom pattern skip (pos + 1) rest
  | 0, pos, c :: rest =>
    if pattern.isPrefixOf (c :: rest) then
      pos :: occurrencesFrom pattern (pattern.length - 1) (pos + 1) rest
    else occurrencesFrom pattern 0 (pos + 1) rest

/-- Whether a line begins at a position. -/
def atLineStart (cs : List Char) (pos : Nat) : Bool := pos = 0 || cs[pos - 1]? = some '\n'

/-- Where the sections of a diff begin. -/
def sectionStarts (cs : List Char) : List Nat :=
  (occurrencesFrom fileMarker 0 0 cs).filter (atLineStart cs)

/-- What lies behind the marker at each position, up to the next one. -/
def slices (cs : List Char) : List Nat → List (List Char)
  | [] => []
  | start :: rest =>
    (cs.take (rest.headD cs.length)).drop (start + fileMarker.length) :: slices cs rest

/-- The section of a slice: its first line is the path. -/
def Section.ofSlice (slice : List Char) : Section where
  path := slice.takeWhile (· ≠ '\n')
  body := splitOn '\n' ((slice.dropWhile (· ≠ '\n')).drop 1)

/-- The diff that is made of the slices of a text. -/
def parseSlices (cs : List Char) : Except LineOverflow Diff :=
  ((slices cs (sectionStarts cs)).map Section.ofSlice).foldlM addSection ⟨∅, []⟩

/-! ### Where sections begin -/

/-- Whether a line that begins with the marker begins here; `fresh` says whether a line does. -/
def isMarked (fresh : Bool) (cs : List Char) : Bool := fresh && fileMarker.isPrefixOf cs

/-- Where lines begin with the marker. -/
def markedFrom (fresh : Bool) (pos : Nat) : List Char → List Nat
  | [] => []
  | c :: rest =>
    if isMarked fresh (c :: rest) then pos :: markedFrom (c = '\n') (pos + 1) rest
    else markedFrom (c = '\n') (pos + 1) rest

/-- A line begins behind a line feed. -/
theorem atLineStart_succ (pre : List Char) (c : Char) (rest : List Char) :
    atLineStart (pre ++ c :: rest) (pre.length + 1) = (c = '\n' : Bool) := by
  simp [atLineStart]

/-- The kept occurrences are where lines begin with the marker. What the last occurrence covers has
no line feed, so no line begins there. -/
theorem filter_occurrencesFrom (pre cs : List Char) {skip : Nat} (hskip : '\n' ∉ cs.take skip)
    (hfresh : 0 < skip → atLineStart (pre ++ cs) pre.length = false) :
    (occurrencesFrom fileMarker skip pre.length cs).filter (atLineStart (pre ++ cs)) =
      markedFrom (atLineStart (pre ++ cs) pre.length) pre.length cs := by
  induction cs generalizing pre skip with
  | nil => cases skip <;> rfl
  | cons c rest ih =>
      have hrest : ∀ n, '\n' ∉ rest.take n → (0 < n → c ≠ '\n') →
          (occurrencesFrom fileMarker n (pre.length + 1) rest).filter
              (atLineStart (pre ++ c :: rest)) =
            markedFrom (c = '\n') (pre.length + 1) rest := by
        intro n hn hc
        have hnext := atLineStart_succ pre c rest
        have h := ih (pre ++ [c]) hn
        simp only [List.append_assoc, List.singleton_append, List.length_append,
          List.length_singleton, hnext] at h
        exact h fun h0 => by simp [hc h0]
      cases skip with
      | succ skip =>
          obtain ⟨hc, hmem⟩ : ¬ '\n' = c ∧ '\n' ∉ rest.take skip := by simpa using hskip
          rw [occurrencesFrom, hrest skip hmem fun _ => Ne.symm hc, markedFrom,
            hfresh (Nat.succ_pos _), if_neg (by simp [isMarked])]
      | zero =>
          by_cases hp : fileMarker.isPrefixOf (c :: rest) = true
          · -- an occurrence covers the rest of the marker, in which no line begins
            have hcover : '\n' ∉ rest.take (fileMarker.length - 1) ∧ c ≠ '\n' := by
              obtain ⟨tail, htail⟩ := List.isPrefixOf_iff_prefix.1 hp
              obtain ⟨rfl, rfl⟩ : '+' = c ∧ ['+', '+', ' ', 'b', '/'] ++ tail = rest :=
                List.cons.inj htail
              simp [fileMarker]
            rw [occurrencesFrom, if_pos hp, markedFrom, List.filter_cons,
              hrest _ hcover.1 fun _ => hcover.2]
            simp [isMarked, hp]
          · rw [occurrencesFrom, if_neg hp, markedFrom,
              hrest 0 (by simp) fun h => absurd h (Nat.lt_irrefl 0),
              if_neg (by simp [isMarked, hp])]

/-- **Where sections begin**: where a line begins with the marker. -/
theorem sectionStarts_eq (cs : List Char) : sectionStarts cs = markedFrom true 0 cs :=
  filter_occurrencesFrom [] cs (by simp) (by simp)

/-! ### The pieces of a text -/

/-- The text before the first line that begins with the marker, and the pieces that begin with such
lines. -/
def pieces (fresh : Bool) : List Char → List Char × List (List Char)
  | [] => ([], [])
  | c :: rest =>
    let later := pieces (c = '\n') rest
    if isMarked fresh (c :: rest) then ([], (c :: later.1) :: later.2) else (c :: later.1, later.2)

/-- The text before the first piece ends where the first marked line begins. -/
theorem headD_markedFrom (fresh : Bool) (pos : Nat) (cs : List Char) :
    (markedFrom fresh pos cs).headD (pos + cs.length) = pos + (pieces fresh cs).1.length := by
  induction cs generalizing fresh pos with
  | nil => rfl
  | cons c rest ih =>
      have hrest := ih (c = '\n') (pos + 1)
      unfold markedFrom pieces
      cases isMarked fresh (c :: rest) with
      | true => rfl
      | false => simpa [Nat.add_assoc, Nat.add_comm 1] using hrest

theorem take_pieces (fresh : Bool) (cs : List Char) :
    cs.take (pieces fresh cs).1.length = (pieces fresh cs).1 := by
  induction cs generalizing fresh with
  | nil => rfl
  | cons c rest ih =>
      unfold pieces
      cases isMarked fresh (c :: rest) with
      | true => rfl
      | false => simp [ih]

theorem slices_markedFrom (pre cs : List Char) (fresh : Bool) :
    slices (pre ++ cs) (markedFrom fresh pre.length cs) =
      (pieces fresh cs).2.map (·.drop fileMarker.length) := by
  induction cs generalizing pre fresh with
  | nil => rfl
  | cons c rest ih =>
      have hrest := ih (pre ++ [c]) (c = '\n')
      simp only [List.append_assoc, List.singleton_append, List.length_append,
        List.length_singleton] at hrest
      unfold markedFrom pieces
      cases isMarked fresh (c :: rest) with
      | true =>
          -- the slice goes up to where the rest of the text has its first marked line
          have hend := headD_markedFrom (c = '\n') (pre.length + 1) rest
          have hlength : (pre ++ c :: rest).length = pre.length + 1 + rest.length := by
            simp [Nat.add_assoc, Nat.add_comm 1]
          rw [if_pos rfl, if_pos rfl, slices, hrest, hlength, hend, List.map_cons]
          simp [Nat.add_assoc, Nat.add_comm 1, List.take_append, List.drop_append, take_pieces]
      | false => simpa using hrest

/-- **The slices are the pieces of the text**, without the markers. -/
theorem slices_sectionStarts (cs : List Char) :
    slices cs (sectionStarts cs) = (pieces true cs).2.map (·.drop fileMarker.length) := by
  rw [sectionStarts_eq]
  exact slices_markedFrom [] cs true

/-! ### Line by line -/

/-- In a line no other one begins. -/
theorem pieces_append {line : List Char} (h : '\n' ∉ line) (cs : List Char) :
    pieces false (line ++ cs) = (line ++ (pieces false cs).1, (pieces false cs).2) := by
  induction line with
  | nil => rfl
  | cons c line ih =>
      obtain ⟨hc, hline⟩ := not_or.1 (mt List.mem_cons.2 h)
      rw [List.cons_append, pieces, decide_eq_false (Ne.symm hc), ih hline]
      rfl

/-- Behind a line feed a line begins. -/
theorem pieces_newline (cs : List Char) :
    pieces false ('\n' :: cs) = ('\n' :: (pieces true cs).1, (pieces true cs).2) := rfl

/-- A pattern without line feeds begins a text exactly if it begins its first line. -/
theorem isPrefixOf_append {pattern : List Char} (hpattern : '\n' ∉ pattern) (line : List Char)
    {cs : List Char} (hcs : cs = [] ∨ ∃ rest, cs = '\n' :: rest) :
    pattern.isPrefixOf (line ++ cs) = pattern.isPrefixOf line := by
  induction pattern generalizing line with
  | nil => simp
  | cons p pattern ih =>
      obtain ⟨hp, hrest⟩ := not_or.1 (mt List.mem_cons.2 hpattern)
      cases line with
      | nil => obtain rfl | ⟨rest, rfl⟩ := hcs <;> simp [List.isPrefixOf, Ne.symm hp]
      | cons c line =>
          rw [List.cons_append, List.isPrefixOf_cons_cons, List.isPrefixOf_cons_cons, ih hrest]

/-- A first line that does not begin with the marker belongs to the text before the first piece, one
that does begins a piece; `cs` is what stands behind the line. -/
theorem pieces_line {line cs : List Char} (h : '\n' ∉ line)
    (hcs : cs = [] ∨ ∃ rest, cs = '\n' :: rest) :
    pieces true (line ++ cs) =
      match pathOf? line with
      | some _ => ([], (line ++ (pieces false cs).1) :: (pieces false cs).2)
      | none => (line ++ (pieces false cs).1, (pieces false cs).2) := by
  have hprefix : fileMarker.isPrefixOf (line ++ cs) = fileMarker.isPrefixOf line :=
    isPrefixOf_append (by decide) line hcs
  cases line with
  | nil => obtain rfl | ⟨rest, rfl⟩ := hcs <;> simp [pieces, pathOf?, fileMarker, isMarked]
  | cons c line =>
      obtain ⟨hc, hline⟩ := not_or.1 (mt List.mem_cons.2 h)
      unfold pathOf?
      rw [List.cons_append] at hprefix ⊢
      rw [pieces, decide_eq_false (Ne.symm hc), pieces_append hline, isMarked, hprefix]
      cases fileMarker.isPrefixOf (c :: line) <;> rfl

/-- The section of a slice of one line. -/
theorem ofSlice_line {path : List Char} (h : '\n' ∉ path) :
    Section.ofSlice path = ⟨path, [[]]⟩ := by
  have hall : ∀ c ∈ path, decide (c ≠ '\n') = true := fun c hc =>
    decide_eq_true fun heq => h (heq ▸ hc)
  have hpath : path.takeWhile (· ≠ '\n') = path := by
    simpa using @List.takeWhile_append_of_pos _ _ path [] hall
  have hrest : path.dropWhile (· ≠ '\n') = [] := by
    simpa using @List.dropWhile_append_of_pos _ _ path [] hall
  rw [Section.ofSlice, hpath, hrest]
  rfl

/-- The section of a slice with a line feed. -/
theorem ofSlice_append {path : List Char} (h : '\n' ∉ path) (cs : List Char) :
    Section.ofSlice (path ++ '\n' :: cs) = ⟨path, splitOn '\n' cs⟩ := by
  have hall : ∀ c ∈ path, decide (c ≠ '\n') = true := fun c hc =>
    decide_eq_true fun heq => h (heq ▸ hc)
  rw [Section.ofSlice, List.takeWhile_append_of_pos hall, List.dropWhile_append_of_pos hall]
  simp

/-- What follows the marker in a line is what the path is. -/
theorem eq_drop_of_pathOf? {line path : List Char} (h : pathOf? line = some path) :
    path = line.drop fileMarker.length ∧ fileMarker.length ≤ line.length := by
  unfold pathOf? at h
  split at h
  · rename_i hprefix
    exact ⟨(Option.some.inj h).symm, (List.isPrefixOf_iff_prefix.1 hprefix).length_le⟩
  · cases h

/-- An empty line alone says nothing. -/
theorem readBody_singleton_nil (next : Option Nat) : readBody next [[]] = some ∅ := by
  rw [readBody_cons]
  rfl

/-- **Line by line.** The text before the first piece says what the lines before the first section
say, and the pieces say what the sections say. -/
theorem reading_pieces {ls : List (List Char)} (h : ∀ l ∈ ls, '\n' ∉ l) :
    (∀ next, readBody next (splitOn '\n' (pieces true (joinWith ['\n'] ls)).1) =
        readBody next (cut ls).1) ∧
      (pieces true (joinWith ['\n'] ls)).2.map
          (fun piece => (Section.ofSlice (piece.drop fileMarker.length)).reading) =
        (cut ls).2.map Section.reading := by
  induction ls with
  | nil => exact ⟨readBody_singleton_nil, rfl⟩
  | cons line rest ih =>
      have hline : '\n' ∉ line := h line (List.mem_cons_self ..)
      obtain ⟨hfront, hsections⟩ := ih fun l hl => h l (List.mem_cons_of_mem _ hl)
      -- what stands behind the line: nothing, or a line feed and the other lines
      obtain ⟨cs, hjoin, hcs⟩ : ∃ cs, joinWith ['\n'] (line :: rest) = line ++ cs ∧
          ((cs = [] ∧ rest = []) ∨ cs = '\n' :: joinWith ['\n'] rest) := by
        cases rest with
        | nil => exact ⟨[], (List.append_nil line).symm, Or.inl ⟨rfl, rfl⟩⟩
        | cons next rest => exact ⟨_, List.append_assoc .., Or.inr rfl⟩
      rw [hjoin, pieces_line hline (hcs.imp And.left fun hcs => ⟨_, hcs⟩)]
      cases hpath : pathOf? line with
      | none =>
          rw [cut_cons_of_none hpath]
          obtain ⟨rfl, rfl⟩ | rfl := hcs
          · refine ⟨fun next => congrArg (readBody next) ?_, rfl⟩
            change splitOn '\n' (line ++ []) = [line]
            rw [List.append_nil, Text.splitOn_eq_singleton hline]
          · rw [pieces_newline]
            refine ⟨fun next => ?_, hsections⟩
            rw [Text.splitOn_append_cons, Text.splitOn_eq_singleton hline, List.singleton_append,
              readBody_cons, readBody_cons, hfront]
      | some path =>
          obtain ⟨hdrop, hlength⟩ := eq_drop_of_pathOf? hpath
          have hbreak : '\n' ∉ path := fun hmem => hline (List.mem_of_mem_drop (hdrop ▸ hmem))
          rw [cut_cons_of_some hpath]
          refine ⟨readBody_singleton_nil, ?_⟩
          rw [List.map_cons, List.map_cons, List.drop_append_of_le_length hlength, ← hdrop]
          obtain ⟨rfl, rfl⟩ | rfl := hcs
          · rw [show (pieces false []).1 = [] from rfl, List.append_nil, ofSlice_line hbreak]
            exact congrArg (· :: _) (congrArg (Reading.mk _) (readBody_singleton_nil none))
          · rw [pieces_newline, ofSlice_append hbreak]
            exact congrArg₂ List.cons (congrArg (Reading.mk _) (hfront none)) hsections

/-- **Both ways to read a text give the same.** -/
theorem parseChars_eq_parseSlices (cs : List Char) : parseChars cs = parseSlices cs := by
  have hlines : ∀ l ∈ splitOn '\n' cs, '\n' ∉ l := fun _ => Text.not_mem_of_mem_splitOn
  have hreading := (reading_pieces hlines).2
  rw [Text.joinWith_splitOn '\n' cs] at hreading
  rw [parseChars_eq_foldlM_readings, readings, sections, ← hreading, parseSlices,
    slices_sectionStarts, List.foldlM_map, List.foldlM_map, List.foldlM_map]
  rfl

end StandardsGate.Diff
