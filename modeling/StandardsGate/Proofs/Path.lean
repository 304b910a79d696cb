import StandardsGate.Path
import StandardsGate.Proofs.Text.Lines

/-!
The steps of a path.

What counts of a path is whether it begins at the root, and its segments but for those that count
for nothing. Joining paths puts their steps one behind the other, the parent of a path has its steps
but for the last one, and the name of a path is its last step.

Main definitions:

* `Path.steps` — the segments that count;
* `Path.IsEntryName`, `Path.IsPlainName` — segments that name an entry.

Main results:

* `Path.components_eq` — the components of a path are its steps;
* `Path.fileName?_eq_some_iff` — **the name of a path is its last step**;
* `Path.exists_splitOn_join` — **a joined path has the segments of both**;
* `Path.exists_parent` — **the parent of a path that has a name**;
* `Path.components_join`, `Path.components_parent?` — the components of a path that ends in a name;
* `Path.isAbsolute_parent?`, `Path.parent?_eq_none_iff` — which parents are absolute, and which
  absolute paths have none;
* `Path.filter_components_eq_iff` — when a path names a neighbour.
-/

namespace StandardsGate

namespace Text

/-- The parts of a text are made of its characters. -/
theorem subset_of_mem_splitOn {sep : Char} {cs part : List Char} (h : part ∈ splitOn sep cs) :
    part ⊆ cs := by
  induction cs generalizing part with
  | nil =>
      rw [splitOn, List.mem_singleton] at h
      exact h ▸ List.Subset.refl _
  | cons c cs ih =>
      rw [splitOn] at h
      split at h
      · rcases List.mem_cons.1 h with rfl | h
        · exact List.nil_subset _
        · exact fun d hd => List.mem_cons_of_mem _ (ih h hd)
      · cases hparts : splitOn sep cs with
        | nil => exact absurd hparts (splitOn_ne_nil sep cs)
        | cons first parts =>
            rw [hparts, consHead] at h
            rcases List.mem_cons.1 h with rfl | h
            · exact List.cons_subset_cons c (ih (hparts ▸ List.mem_cons_self))
            · have hmem : part ∈ splitOn sep cs := hparts ▸ List.mem_cons_of_mem _ h
              exact fun d hd => List.mem_cons_of_mem _ (ih hmem hd)

/-- Splitting undoes joining parts without the separator. -/
theorem splitOn_joinWith {sep : Char} {parts : List (List Char)} (hne : parts ≠ [])
    (h : ∀ part ∈ parts, sep ∉ part) : splitOn sep (joinWith [sep] parts) = parts := by
  induction parts with
  | nil => exact absurd rfl hne
  | cons part rest ih =>
      obtain ⟨hpart, hrest⟩ := List.forall_mem_cons.1 h
      cases rest with
      | nil => exact splitOn_eq_singleton hpart
      | cons next rest =>
          have hjoin : joinWith [sep] (part :: next :: rest) =
              part ++ sep :: joinWith [sep] (next :: rest) := by simp [joinWith]
          rw [hjoin, splitOn_append_cons, splitOn_eq_singleton hpart, ih (by simp) hrest]
          rfl

end Text

namespace Path

/-- Whether a segment names an entry of a directory. -/
def IsEntryName (s : List Char) : Prop := isIdle s = false ∧ s ≠ ['.', '.']

/-- Whether a text can be the name of an entry: it has no slash. -/
def IsPlainName (s : List Char) : Prop := IsEntryName s ∧ '/' ∉ s

/-- The segments of a path that count. -/
def steps (p : Path) : List (List Char) := (Text.splitOn '/' p.chars).filter fun s => !isIdle s

/-- The component of a segment that counts. -/
def stepComponent (s : List Char) : Component := if s = ['.', '.'] then .up else .name s

variable {p q base : Path} {n s : List Char}

theorem mem_steps (h : s ∈ p.steps) : isIdle s = false ∧ '/' ∉ s := by
  obtain ⟨hmem, hbusy⟩ := List.mem_filter.1 h
  exact ⟨by simpa using hbusy, Text.not_mem_of_mem_splitOn hmem⟩

theorem filter_split (cs : List Char) :
    (split cs).2.filter (fun s => !isIdle s) =
      (Text.splitOn '/' cs).filter fun s => !isIdle s := by
  rw [split]
  cases cs with
  | nil => rfl
  | cons c cs =>
      by_cases hslash : c = '/'
      · subst hslash
        rfl
      · by_cases hdot : c = '.'
        · subst hdot
          cases cs with
          | nil => rfl
          | cons d ds =>
              by_cases hd : d = '/'
              · subst hd
                rfl
              · have hlead : lead ('.' :: d :: ds) = none := by simp [lead, hd]
                rw [hlead]
        · have hlead : lead (c :: cs) = none := by simp [lead, hslash, hdot]
          rw [hlead]

/-- The components of a path are its steps, behind its beginning. -/
theorem components_eq (p : Path) :
    p.components = (lead p.chars).toList ++ p.steps.map stepComponent := by
  have hfilter : ∀ segments : List (List Char),
      segments.filterMap segmentComponent? =
        (segments.filter fun s => !isIdle s).map stepComponent := by
    intro segments
    induction segments with
    | nil => rfl
    | cons s rest ih =>
        cases hs : isIdle s with
        | true => simpa [segmentComponent?, hs] using ih
        | false =>
            have hcomponent : segmentComponent? s = some (stepComponent s) := by
              unfold segmentComponent? stepComponent
              rw [hs, if_neg Bool.false_ne_true]
              split <;> rfl
            simp [hs, hcomponent, ih]
  rw [components, hfilter, filter_split]
  rfl

/-- A path begins with the root if it is absolute. -/
theorem lead_eq_root_iff : lead p.chars = some .root ↔ p.isAbsolute = true := by
  rw [isAbsolute, beq_iff_eq, List.head?_eq_some_iff]
  unfold lead
  split <;> simp_all

/-- What comes behind a slash does not matter to how a path begins. -/
theorem lead_append_slash {cs : List Char} (hne : cs ≠ []) (more : List Char) :
    lead (cs ++ '/' :: more) = lead cs := by
  obtain ⟨c, rest, rfl⟩ := List.exists_cons_of_ne_nil hne
  by_cases hslash : c = '/'
  · subst hslash
    rfl
  · by_cases hdot : c = '.'
    · subst hdot
      cases rest with
      | nil => rfl
      | cons d rest =>
          by_cases hd : d = '/'
          · subst hd
            rfl
          · simp [lead, hd]
    · simp [lead, hslash, hdot]

/-- The root directory has no steps. -/
theorem steps_eq_nil_of_components (h : p.components = [.root]) : p.steps = [] := by
  cases hsteps : p.steps with
  | nil => rfl
  | cons s rest =>
      have hmem : stepComponent s ∈ p.components := by
        rw [components_eq, hsteps]
        exact List.mem_append_right _ List.mem_cons_self
      rw [h, List.mem_singleton, stepComponent] at hmem
      split at hmem <;> cases hmem

/-- **The name of a path is its last step.** -/
theorem fileName?_eq_some_iff :
    p.fileName? = some n ↔ p.steps.getLast? = some n ∧ n ≠ ['.', '.'] := by
  have hcomponents : p.components.getLast? =
      (p.steps.getLast?.map stepComponent).or (lead p.chars).toList.getLast? := by
    rw [components_eq, List.getLast?_append, List.getLast?_map]
  cases hlast : p.steps.getLast? with
  | some s =>
      have hsome : p.components.getLast? = some (stepComponent s) := by rw [hcomponents, hlast]; rfl
      by_cases hup : s = ['.', '.']
      · rw [fileName?, hsome, hup]
        simp [stepComponent]
        rintro rfl
        simp
      · rw [fileName?, hsome, stepComponent, if_neg hup]
        simp
        rintro rfl
        exact hup
  | none =>
      have hlead : p.components.getLast? = (lead p.chars).toList.getLast? := by
        rw [hcomponents, hlast]
        rfl
      rw [fileName?, hlead]
      cases hl : lead p.chars with
      | none => simp
      | some c =>
          unfold lead at hl
          split at hl <;> cases hl <;> simp

/-- A path that does not end in a segment that counts for nothing ends in its name. -/
theorem exists_splitOn_of_fileName? (h : p.fileName? = some n)
    (hlast : isIdle ((Text.splitOn '/' p.chars).getLast (Text.splitOn_ne_nil '/' p.chars)) = false) :
    ∃ init, Text.splitOn '/' p.chars = init ++ [n] ∧
      init.filter (fun s => !isIdle s) = p.steps.dropLast := by
  obtain ⟨hstep, -⟩ := fileName?_eq_some_iff.1 h
  have hsplit := List.dropLast_concat_getLast (Text.splitOn_ne_nil '/' p.chars)
  generalize (Text.splitOn '/' p.chars).dropLast = init, (Text.splitOn '/' p.chars).getLast _ = last
    at hsplit hlast
  have hsteps : p.steps = init.filter (fun s => !isIdle s) ++ [last] := by
    rw [steps, ← hsplit, List.filter_append, List.filter_cons_of_pos (by simp [hlast]),
      List.filter_nil]
  rw [hsteps, List.getLast?_concat] at hstep
  obtain rfl := Option.some.inj hstep
  exact ⟨init, hsplit.symm, by rw [hsteps, List.dropLast_concat]⟩

/-! ### Joining paths -/

theorem isPlainName_of_fileName? (h : p.fileName? = some n) : IsPlainName n := by
  obtain ⟨hlast, hup⟩ := fileName?_eq_some_iff.1 h
  obtain ⟨hidle, hslash⟩ := mem_steps (List.mem_of_getLast? hlast)
  exact ⟨⟨hidle, hup⟩, hslash⟩

theorem IsPlainName.isAbsolute (h : IsPlainName n) : isAbsolute ⟨n⟩ = false := by
  obtain ⟨-, hslash⟩ := h
  cases n with
  | nil => rfl
  | cons c rest =>
      have hc : c ≠ '/' := by
        rintro rfl
        exact hslash (List.mem_cons_self ..)
      simp [Path.isAbsolute, hc]

theorem IsPlainName.splitOn (h : IsPlainName n) : Text.splitOn '/' n = [n] :=
  Text.splitOn_eq_singleton h.2

theorem join_of_isAbsolute (h : q.isAbsolute = true) : base.join q = q := by
  rw [join, if_pos h]

/-- A relative path is put behind the base and a slash, unless the base is empty or ends in one. -/
theorem join_cases (base : Path) :
    (base.chars = [] ∧ ∀ q : Path, q.isAbsolute = false → base.join q = q) ∨
      (∃ init, base.chars = init ++ ['/'] ∧
        ∀ q : Path, q.isAbsolute = false → base.join q = ⟨init ++ '/' :: q.chars⟩) ∨
      (base.chars ≠ [] ∧
        ∀ q : Path, q.isAbsolute = false → base.join q = ⟨base.chars ++ '/' :: q.chars⟩) := by
  rcases List.eq_nil_or_concat base.chars with hnil | ⟨init, c, hinit⟩
  · refine .inl ⟨hnil, fun q hq => ?_⟩
    rw [join, hq, if_neg Bool.false_ne_true, hnil]
    rfl
  · rw [List.concat_eq_append] at hinit
    by_cases hc : c = '/'
    · subst hc
      refine .inr (.inl ⟨init, hinit, fun q hq => ?_⟩)
      rw [join, hq, if_neg Bool.false_ne_true, hinit, List.getLast?_concat]
      simp
    · refine .inr (.inr ⟨by simp [hinit], fun q hq => ?_⟩)
      rw [join, hq, if_neg Bool.false_ne_true, hinit, List.getLast?_concat]
      split
      · simp_all
      · simp_all
      · rfl

theorem isAbsolute_join (h : q.isAbsolute = false) :
    (base.join q).isAbsolute = base.isAbsolute := by
  rcases join_cases base with ⟨hbase, hjoin⟩ | ⟨init, hbase, hjoin⟩ | ⟨hbase, hjoin⟩
  · rw [hjoin q h, h, isAbsolute, hbase]
    rfl
  · rw [hjoin q h, isAbsolute, isAbsolute, hbase]
    cases init <;> rfl
  · rw [hjoin q h, isAbsolute, isAbsolute]
    cases hcs : base.chars with
    | nil => exact absurd hcs hbase
    | cons c rest => rfl

theorem isAbsolute_absolutize (h : base.isAbsolute = true) : (p.absolutize base).isAbsolute = true := by
  unfold absolutize
  split
  · assumption
  · rename_i hp
    rw [isAbsolute_join (by simpa using hp), h]

/-- **A joined path has the segments of both**, those of the first one up to some that count for
nothing. -/
theorem exists_splitOn_join (base : Path) :
    ∃ front, front.filter (fun s => !isIdle s) = base.steps ∧
      ∀ q : Path, q.isAbsolute = false →
        Text.splitOn '/' (base.join q).chars = front ++ Text.splitOn '/' q.chars := by
  rcases join_cases base with ⟨hbase, hjoin⟩ | ⟨init, hbase, hjoin⟩ | ⟨-, hjoin⟩
  · refine ⟨[], by simp [steps, hbase, Text.splitOn, isIdle], fun q hq => ?_⟩
    rw [hjoin q hq]
    rfl
  · refine ⟨Text.splitOn '/' init, ?_, fun q hq => ?_⟩
    · rw [steps, hbase, Text.splitOn_append_cons, List.filter_append]
      simp [Text.splitOn, isIdle]
    · rw [hjoin q hq]
      exact Text.splitOn_append_cons _ _ _
  · refine ⟨Text.splitOn '/' base.chars, rfl, fun q hq => ?_⟩
    rw [hjoin q hq]
    exact Text.splitOn_append_cons _ _ _

theorem steps_join (h : q.isAbsolute = false) : (base.join q).steps = base.steps ++ q.steps := by
  obtain ⟨front, hfront, hsplit⟩ := exists_splitOn_join base
  rw [steps, hsplit q h, List.filter_append, hfront]
  rfl

theorem IsPlainName.steps (h : IsPlainName n) : Path.steps ⟨n⟩ = [n] := by
  rw [Path.steps, h.splitOn]
  simp [h.1.1]

/-- A name begins neither with the root nor with a dot of its own. -/
theorem IsPlainName.lead (h : IsPlainName n) : Path.lead n = none := by
  obtain ⟨⟨hidle, -⟩, hslash⟩ := h
  unfold Path.lead
  split
  · exact absurd List.mem_cons_self hslash
  · cases hidle
  · exact absurd (by simp) hslash
  · rfl

theorem lead_join (h : IsPlainName n) : lead (base.join ⟨n⟩).chars = lead base.chars := by
  rcases join_cases base with ⟨hbase, hjoin⟩ | ⟨init, hbase, hjoin⟩ | ⟨hbase, hjoin⟩
  · rw [hjoin _ h.isAbsolute, hbase]
    exact h.lead
  · rw [hjoin _ h.isAbsolute, hbase]
    cases init with
    | nil => rfl
    | cons c init => rw [lead_append_slash (by simp), lead_append_slash (by simp)]
  · rw [hjoin _ h.isAbsolute]
    exact lead_append_slash hbase n

/-- **A path that is joined with a name** has the name for one more component. -/
theorem components_join (h : IsPlainName n) :
    (base.join ⟨n⟩).components = base.components ++ [.name n] := by
  rw [components_eq, components_eq, lead_join h, steps_join h.isAbsolute, h.steps, List.map_append,
    List.map_singleton, stepComponent, if_neg h.1.2, List.append_assoc]

/-- A path that is joined with a name ends in it. -/
theorem fileName?_join (h : IsPlainName n) : (base.join ⟨n⟩).fileName? = some n := by
  rw [fileName?_eq_some_iff, steps_join h.isAbsolute, h.steps]
  exact ⟨List.getLast?_concat, h.1.2⟩

/-- A joined path has the name of the second path, if that has steps. -/
theorem fileName?_join_of_steps (h : q.steps ≠ []) : (base.join q).fileName? = q.fileName? := by
  cases hq : q.isAbsolute with
  | true => rw [join_of_isAbsolute hq]
  | false =>
      refine Option.ext fun n => ?_
      rw [fileName?_eq_some_iff, fileName?_eq_some_iff, steps_join hq,
        List.getLast?_append, List.getLast?_eq_some_getLast h, Option.some_or]

/-- A joined path ends as the second path does. -/
theorem exists_chars_join (base q : Path) : ∃ front, (base.join q).chars = front ++ q.chars := by
  cases hq : q.isAbsolute with
  | true => exact ⟨[], by rw [join_of_isAbsolute hq]; rfl⟩
  | false =>
      rcases join_cases base with ⟨-, hjoin⟩ | ⟨init, -, hjoin⟩ | ⟨-, hjoin⟩
      · exact ⟨[], by rw [hjoin q hq]; rfl⟩
      · exact ⟨init ++ ['/'], by rw [hjoin q hq]; simp⟩
      · exact ⟨base.chars ++ ['/'], by rw [hjoin q hq]; simp⟩

theorem mem_chars_join {c : Char} (h : c ∈ (base.join q).chars) :
    c ∈ base.chars ∨ c = '/' ∨ c ∈ q.chars := by
  cases hq : q.isAbsolute with
  | true => exact .inr (.inr (by rwa [join_of_isAbsolute hq] at h))
  | false =>
      rcases join_cases base with ⟨-, hjoin⟩ | ⟨init, hinit, hjoin⟩ | ⟨-, hjoin⟩
      · exact .inr (.inr (by rwa [hjoin q hq] at h))
      · rw [hjoin q hq] at h
        rcases List.mem_append.1 h with h | h
        · exact .inl (hinit ▸ List.mem_append_left _ h)
        · exact .inr (List.mem_cons.1 h)
      · rw [hjoin q hq] at h
        rcases List.mem_append.1 h with h | h
        · exact .inl h
        · exact .inr (List.mem_cons.1 h)

/-! ### Parents -/

theorem filter_trimEnd (segments : List (List Char)) :
    (trimEnd segments).filter (fun s => !isIdle s) = segments.filter fun s => !isIdle s := by
  have hdrop : ∀ segments : List (List Char), (segments.dropWhile isIdle).filter (fun s => !isIdle s) =
      segments.filter fun s => !isIdle s := by
    intro segments
    induction segments with
    | nil => rfl
    | cons s rest ih =>
        cases hs : isIdle s with
        | true => rw [List.dropWhile_cons_of_pos hs, ih, List.filter_cons_of_neg (by simp [hs])]
        | false => rw [List.dropWhile_cons_of_neg (by simp [hs])]
  rw [trimEnd, List.filter_reverse, hdrop, List.filter_reverse, List.reverse_reverse]

/-- The last of the segments that are kept counts. -/
theorem isIdle_getLast_trimEnd {segments : List (List Char)} (h : trimEnd segments ≠ []) :
    isIdle ((trimEnd segments).getLast h) = false := by
  unfold trimEnd at h ⊢
  rw [List.getLast_reverse]
  simpa using List.head_dropWhile_not isIdle (by simpa using h)

/-- Without the last segment that counts, the last step is gone. -/
theorem filter_dropLast_trimEnd {segments : List (List Char)} :
    (trimEnd segments).dropLast.filter (fun s => !isIdle s) =
      (segments.filter fun s => !isIdle s).dropLast := by
  by_cases h : trimEnd segments = []
  · rw [← filter_trimEnd segments, h]
    rfl
  · rw [← filter_trimEnd segments]
    have hsplit : (trimEnd segments).filter (fun s => !isIdle s) =
        (trimEnd segments).dropLast.filter (fun s => !isIdle s) ++ [(trimEnd segments).getLast h] := by
      conv => lhs; rw [← List.dropLast_concat_getLast h]
      rw [List.filter_append, List.filter_cons_of_pos (by simp [isIdle_getLast_trimEnd h]),
        List.filter_nil]
    rw [hsplit, List.dropLast_concat]

/-- Joined segments have the steps that count among them. -/
theorem steps_joinWith {segments : List (List Char)} (h : ∀ s ∈ segments, '/' ∉ s) :
    (Text.splitOn '/' (Text.joinWith ['/'] segments)).filter (fun s => !isIdle s) =
      segments.filter fun s => !isIdle s := by
  by_cases hne : segments = []
  · subst hne
    rfl
  · rw [Text.splitOn_joinWith hne h]

/-- How a path is split into its beginning and segments. -/
theorem split_cases (cs : List Char) :
    split cs = ([], Text.splitOn '/' cs) ∨
      (∃ rest, cs = '/' :: rest ∧ split cs = (['/'], Text.splitOn '/' rest)) ∨
      ∃ rest, cs = '.' :: rest ∧ split cs = (['.'], Text.splitOn '/' rest) ∧
        (rest = [] ∨ ∃ rest', rest = '/' :: rest') := by
  unfold split lead
  split
  · rename_i c hc
    split at hc
    · exact .inr (.inl ⟨_, rfl, rfl⟩)
    · exact .inr (.inr ⟨_, rfl, rfl, .inl rfl⟩)
    · exact .inr (.inr ⟨_, rfl, rfl, .inr ⟨_, rfl⟩⟩)
    · cases hc
  · exact .inl rfl

theorem joinWith_isPrefix {a b : List (List Char)} (h : a <+: b) :
    Text.joinWith ['/'] a <+: Text.joinWith ['/'] b := by
  obtain ⟨c, rfl⟩ := h
  induction a with
  | nil => exact List.nil_prefix
  | cons x rest ih =>
      cases rest with
      | nil =>
          cases c with
          | nil => exact List.prefix_rfl
          | cons y c => exact ⟨'/' :: Text.joinWith ['/'] (y :: c), by simp [Text.joinWith]⟩
      | cons y rest =>
          obtain ⟨d, hd⟩ := ih
          refine ⟨d, ?_⟩
          simp only [List.cons_append, Text.joinWith] at hd ⊢
          rw [List.append_assoc, hd]

/-- A path that is put together of segments has those that count for its steps. -/
theorem steps_ofSegments {segments : List (List Char)} (h : segments <+: (split p.chars).2) :
    (ofSegments (split p.chars).1 segments).steps = segments.filter fun s => !isIdle s := by
  have hslash : ∀ s ∈ segments, '/' ∉ s := by
    intro s hs
    have hmem := h.subset hs
    unfold split at hmem
    split at hmem <;> exact Text.not_mem_of_mem_splitOn hmem
  rcases split_cases p.chars with hsplit | ⟨rest, -, hsplit⟩ | ⟨rest, -, hsplit, hrest⟩
  · rw [hsplit]
    exact steps_joinWith hslash
  · rw [hsplit, steps, ofSegments]
    simp only [List.cons_append, List.nil_append, Text.splitOn, if_true]
    rw [List.filter_cons_of_neg (by decide), steps_joinWith hslash]
  · rw [hsplit] at h ⊢
    -- the segments behind the dot begin with an empty one
    have hempty : segments = [] ∨ ∃ more, segments = [] :: more := by
      cases segments with
      | nil => exact .inl rfl
      | cons s more =>
          refine .inr ⟨more, ?_⟩
          rcases hrest with rfl | ⟨rest', rfl⟩ <;>
            simpa [Text.splitOn] using (List.cons_prefix_cons.1 h).1
    rcases hempty with rfl | ⟨more, rfl⟩
    · rfl
    · cases more with
      | nil => rfl
      | cons s more =>
          have hjoin : ofSegments ['.'] ([] :: s :: more) =
              ⟨['.'] ++ '/' :: Text.joinWith ['/'] (s :: more)⟩ := by
            simp [ofSegments, Text.joinWith]
          rw [hjoin, steps, Text.splitOn_append_cons, List.filter_append,
            steps_joinWith fun s hs => hslash s (List.mem_cons_of_mem _ hs)]
          rfl

theorem lead_joinWith (hne : s ≠ []) (rest : List (List Char)) :
    lead (Text.joinWith ['/'] (s :: rest)) = lead s := by
  cases rest with
  | nil => rfl
  | cons s' rest =>
      rw [Text.joinWith, List.append_assoc]
      · exact lead_append_slash hne _
      · exact List.cons_ne_nil _ _

/-- A path that is put together of the first segments of a path begins as that path does. -/
theorem lead_ofSegments {segments : List (List Char)} (h : segments <+: (split p.chars).2) :
    lead (ofSegments (split p.chars).1 segments).chars = lead p.chars := by
  rcases split_cases p.chars with hsplit | ⟨rest, hcs, hsplit⟩ | ⟨rest, hcs, hsplit, hrest⟩
  · have hlead : lead p.chars = none := by
      cases hlead : lead p.chars with
      | none => rfl
      | some c =>
          rw [split, hlead] at hsplit
          have hnil : p.chars = [] := by simpa using congrArg Prod.fst hsplit
          rw [hnil] at hlead
          cases hlead
    have hjoin := Text.joinWith_splitOn '/' p.chars
    rw [hsplit] at h ⊢
    obtain ⟨more, hmore⟩ := h
    dsimp only at hmore ⊢
    rw [← hmore] at hjoin
    cases segments with
    | nil => exact hlead.symm
    | cons s segments =>
        by_cases hne : s = []
        · subst hne
          cases hall : segments ++ more with
          | nil =>
              obtain ⟨rfl, rfl⟩ := List.append_eq_nil_iff.1 hall
              exact hlead.symm
          | cons s' rest =>
              -- a slash behind an empty segment would be the root
              rw [List.cons_append, hall] at hjoin
              rw [← hjoin] at hlead
              cases hlead
        · rw [← hjoin]
          exact (lead_joinWith hne _).trans (lead_joinWith hne _).symm
  · rw [hsplit, hcs]
    rfl
  · rw [hsplit] at h
    have hhere : lead ('.' :: rest) = some .here := by rcases hrest with rfl | ⟨rest', rfl⟩ <;> rfl
    rw [hsplit, hcs, hhere]
    -- the segments behind the dot begin with an empty one
    cases segments with
    | nil => rfl
    | cons s segments =>
        obtain rfl : s = [] := by
          rcases hrest with rfl | ⟨rest', rfl⟩ <;>
            simpa [Text.splitOn] using (List.cons_prefix_cons.1 h).1
        cases segments <;> rfl

theorem isAbsolute_ofSegments {segments : List (List Char)} (h : segments <+: (split p.chars).2) :
    (ofSegments (split p.chars).1 segments).isAbsolute = p.isAbsolute := by
  rw [Bool.eq_iff_iff, ← lead_eq_root_iff, ← lead_eq_root_iff, lead_ofSegments h]

/-- The segments of a parent are the first ones. -/
theorem trimEnd_dropLast_isPrefix (segments : List (List Char)) :
    trimEnd (trimEnd segments).dropLast <+: segments :=
  (trimEnd_isPrefix _).trans ((List.dropLast_prefix _).trans (trimEnd_isPrefix _))

/-- A path that has a name has a parent. -/
theorem parent?_of_fileName? (h : p.fileName? = some n) :
    p.parent? =
      some (ofSegments (split p.chars).1 (trimEnd (trimEnd (split p.chars).2).dropLast)) := by
  obtain ⟨hlast, -⟩ := fileName?_eq_some_iff.1 h
  have hkept : trimEnd (split p.chars).2 ≠ [] := by
    intro hnil
    rw [steps, ← filter_split, ← filter_trimEnd, hnil] at hlast
    cases hlast
  unfold parent?
  revert hkept
  generalize split p.chars = parts
  obtain ⟨start, segments⟩ := parts
  intro hkept
  dsimp only at hkept ⊢
  split
  · rename_i hnil
    exact absurd hnil hkept
  · rfl

/-- **The parent of a path that has a name** has its steps but for the name. -/
theorem exists_parent (h : p.fileName? = some n) :
    ∃ b, p.parent? = some b ∧ b.steps = p.steps.dropLast ∧ b.isAbsolute = p.isAbsolute := by
  have hfront := trimEnd_dropLast_isPrefix (split p.chars).2
  refine ⟨_, parent?_of_fileName? h, ?_, isAbsolute_ofSegments hfront⟩
  rw [steps_ofSegments hfront, filter_trimEnd, filter_dropLast_trimEnd, filter_split]
  rfl

/-- **A path that has a name** has the components of its parent and the name. -/
theorem components_parent? {b : Path} (hname : p.fileName? = some n) (hparent : p.parent? = some b) :
    p.components = b.components ++ [.name n] := by
  obtain ⟨hlast, hup⟩ := fileName?_eq_some_iff.1 hname
  have hlead : lead b.chars = lead p.chars := by
    rw [parent?_of_fileName? hname, Option.some.injEq] at hparent
    rw [← hparent, lead_ofSegments (trimEnd_dropLast_isPrefix _)]
  have hsteps : p.steps = b.steps ++ [n] := by
    obtain ⟨_, hsome, hfront, -⟩ := exists_parent hname
    obtain rfl := Option.some.inj (hparent.symm.trans hsome)
    obtain ⟨init, hinit⟩ := List.getLast?_eq_some_iff.1 hlast
    rw [hfront, hinit, List.dropLast_concat]
  rw [components_eq, components_eq, hlead, hsteps, List.map_append, List.map_singleton,
    stepComponent, if_neg hup, List.append_assoc]

/-- The parent of a path is a beginning of it. -/
theorem parent?_isPrefix {b : Path} (h : p.parent? = some b) : b.chars <+: p.chars := by
  unfold parent? at h
  have hwhole : (split p.chars).1 ++ Text.joinWith ['/'] (split p.chars).2 = p.chars := by
    rcases split_cases p.chars with hsplit | ⟨rest, hcs, hsplit⟩ | ⟨rest, hcs, hsplit, -⟩
    · rw [hsplit, Text.joinWith_splitOn]
      rfl
    · rw [hsplit, Text.joinWith_splitOn, hcs]
      rfl
    · rw [hsplit, Text.joinWith_splitOn, hcs]
      rfl
  revert h hwhole
  generalize split p.chars = parts
  obtain ⟨start, segments⟩ := parts
  intro h hwhole
  dsimp only at h hwhole
  split at h
  · split at h <;> cases h
    exact List.nil_prefix
  · cases h
    rw [← hwhole]
    exact (List.prefix_append_right_inj start).2
      (joinWith_isPrefix (trimEnd_dropLast_isPrefix segments))

/-- A parent is absolute if the path is. -/
theorem isAbsolute_parent? {b : Path} (h : p.parent? = some b) : b.isAbsolute = p.isAbsolute := by
  have hstart := isAbsolute_ofSegments (trimEnd_dropLast_isPrefix (split p.chars).2)
  unfold parent? at h
  revert h hstart
  generalize split p.chars = parts
  obtain ⟨start, segments⟩ := parts
  intro h hstart
  dsimp only at h hstart
  split at h
  · split at h
    · rename_i hhere
      cases h
      -- a path that begins with a dot does not begin at the root
      unfold lead at hhere
      split at hhere <;> cases hhere <;> rename_i hcs <;> rw [isAbsolute, isAbsolute, hcs] <;> rfl
    · cases h
  · cases h
    exact hstart

/-- An absolute path has no parent exactly if nothing in it counts. -/
theorem parent?_eq_none_iff (h : p.isAbsolute = true) : p.parent? = none ↔ p.steps = [] := by
  have hlead : lead p.chars ≠ some .here := by
    obtain ⟨rest, hcs⟩ := List.head?_eq_some_iff.1 (by simpa [isAbsolute] using h)
    rw [hcs, lead]
    simp
  have hsteps : p.steps = [] ↔ trimEnd (split p.chars).2 = [] := by
    rw [steps, ← filter_split, ← filter_trimEnd]
    constructor
    · intro hnone
      refine Classical.byContradiction fun hkept => ?_
      have hlast := List.filter_eq_nil_iff.1 hnone _ (List.getLast_mem hkept)
      rw [isIdle_getLast_trimEnd hkept] at hlast
      exact hlast rfl
    · intro hnil
      rw [hnil, List.filter_nil]
  rw [hsteps, parent?]
  generalize split p.chars = parts
  obtain ⟨start, segments⟩ := parts
  dsimp only
  split
  · rename_i hnil
    simp [hlead, hnil]
  · rename_i hkept
    simpa using hkept

/-! ### Neighbours -/

theorem filter_components (p : Path) :
    p.components.filter (· != .here) =
      (if p.isAbsolute then [.root] else []) ++ p.steps.map stepComponent := by
  have hsteps : (p.steps.map stepComponent).filter (· != .here) = p.steps.map stepComponent := by
    rw [List.filter_eq_self]
    intro c hc
    obtain ⟨s, -, rfl⟩ := List.mem_map.1 hc
    unfold stepComponent
    split <;> rfl
  have hlead : (lead p.chars).toList.filter (· != .here) = if p.isAbsolute then [.root] else [] := by
    unfold lead isAbsolute
    split
    · rename_i rest hcs
      rw [hcs]
      rfl
    · rename_i hcs
      rw [hcs]
      rfl
    · rename_i rest hcs
      rw [hcs]
      rfl
    · rename_i hroot _ _
      have hhead : p.chars.head? ≠ some '/' := by
        intro hhead
        obtain ⟨rest, hcs⟩ := List.head?_eq_some_iff.1 hhead
        exact hroot rest hcs
      rw [beq_eq_false_iff_ne.2 hhead]
      rfl
  rw [components_eq, List.filter_append, hsteps, hlead]

/-- A path names a neighbour if that name is its only step. -/
theorem filter_components_eq_iff (hn : IsEntryName n) :
    p.components.filter (· != .here) = [.name n] ↔ p.isAbsolute = false ∧ p.steps = [n] := by
  have hname : stepComponent n = .name n := if_neg hn.2
  have hinjective : ∀ s, stepComponent s = .name n → s = n := by
    intro s hs
    unfold stepComponent at hs
    split at hs <;> cases hs
    rfl
  rw [filter_components]
  cases habs : p.isAbsolute with
  | true => simp
  | false =>
      rw [if_neg Bool.false_ne_true, List.nil_append]
      constructor
      · intro h
        obtain ⟨s, hs, hstep⟩ := List.map_eq_singleton_iff.1 h
        exact ⟨rfl, by rw [hs, hinjective s hstep]⟩
      · rintro ⟨-, h⟩
        rw [h, List.map_singleton, hname]

end Path

end StandardsGate
