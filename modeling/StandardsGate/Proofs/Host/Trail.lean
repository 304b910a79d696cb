import StandardsGate.Proofs.Host.Stepping

/-!
What a walk looks at.

A walk looks at the places that it passes, at the place where it ends, and at what stands in its
way. Nothing else in a tree matters to it: trees that agree on the trail of a walk agree on where it
leads.

Main definitions:

* `FileTree.trail` — the locations that the walk along a path looks at;
* `Location.Inside` — what is below a location;
* `FileTree.Avoids` — a path that does not lead into a directory.

Main results:

* `FileTree.get?_put`, `FileTree.get?_erase` — what a change does to a tree;
* `FileTree.find_congr` — **only the trail of a path matters to where it leads**.
-/

namespace StandardsGate

/-- Whether a location is below another one. -/
def Location.Inside (dir l : Location) : Prop := dir <+: l ∧ l ≠ dir

instance Location.decidableInside (dir l : Location) : Decidable (Location.Inside dir l) :=
  inferInstanceAs (Decidable (_ ∧ _))

theorem Location.inside_concat (dir : Location) (n : List Char) :
    Location.Inside dir (dir ++ [n]) := ⟨List.prefix_append .., by simp⟩

namespace FileTree

variable {t t' : FileTree} {l x : Location} {e : Entry}

/-! ### Changes -/

theorem get?_of_ne_nil (h : l ≠ []) : t.get? l = t.entries.get? l := by
  cases l with
  | nil => exact absurd rfl h
  | cons => rfl

theorem ne_nil_of_ne_directory (h : t.get? l ≠ some .directory) : l ≠ [] := by
  rintro rfl
  exact h rfl

theorem get?_put (h : l ≠ []) (x : Location) :
    (t.put l e).get? x = if x = l then some e else t.get? x := by
  by_cases hx : x = []
  · subst hx
    rw [if_neg (Ne.symm h)]
    rfl
  · rw [get?_of_ne_nil hx, get?_of_ne_nil hx]
    exact OrderedMap.get?_insert ..

theorem lookup_filter_ne {κ α : Type} [DecidableEq κ] {keep : κ × α → Bool} {k : κ}
    (hkeep : ∀ e, keep e = true ↔ e.1 ≠ k) (es : List (κ × α)) (x : κ) :
    (es.filter keep).lookup x = if x = k then none else es.lookup x := by
  induction es with
  | nil => simp
  | cons head es ih =>
      obtain ⟨j, v⟩ := head
      by_cases hj : j = k
      · subst hj
        rw [List.filter_cons_of_neg (by simp [hkeep]), ih, List.lookup_cons]
        by_cases hx : x = j
        · simp [hx]
        · have : (x == j) = false := by simpa using hx
          simp [this]
      · rw [List.filter_cons_of_pos ((hkeep _).2 hj), List.lookup_cons, List.lookup_cons, ih]
        by_cases hx : x = j
        · subst hx
          simp [hj]
        · have : (x == j) = false := by simpa using hx
          simp [this]

theorem get?_erase (h : l ≠ []) (x : Location) :
    (t.erase l).get? x = if x = l then none else t.get? x := by
  by_cases hx : x = []
  · subst hx
    rw [if_neg (Ne.symm h)]
    rfl
  · rw [get?_of_ne_nil hx, get?_of_ne_nil hx]
    exact lookup_filter_ne (fun e => bne_iff_ne) _ x

theorem get?_put_eq_some {e' : Entry} (h : (t.put l e).get? x = some e') :
    x = l ∧ e' = e ∨ t.get? x = some e' := by
  by_cases hl : l = []
  · subst hl
    by_cases hx : x = []
    · subst hx
      exact .inr h
    · refine .inr ?_
      rw [get?_of_ne_nil hx] at h ⊢
      rwa [put, OrderedMap.get?_insert, if_neg hx] at h
  · rw [get?_put hl] at h
    split at h
    · rename_i hx
      exact .inl ⟨hx, (Option.some.inj h).symm⟩
    · exact .inr h

theorem get?_erase_eq_some {e' : Entry} (h : (t.erase l).get? x = some e') :
    t.get? x = some e' := by
  by_cases hx : x = []
  · subst hx
    exact h
  · rw [get?_of_ne_nil hx] at h ⊢
    have hlookup := lookup_filter_ne (fun e => bne_iff_ne) t.entries.entries x (k := l)
    rw [OrderedMap.get?, erase, hlookup] at h
    split at h
    · cases h
    · exact h

/-! ### Trails -/

/-- The locations that a walk looks at; `follow` goes on where a link leads. -/
def trailWith (t : FileTree) (follow : Location → List (List Char) → List Location)
    (l : Location) : List (List Char) → List Location
  | [] => [l]
  | s :: rest =>
    l :: if t.get? l ≠ some .directory then []
      else if Path.isIdle s then trailWith t follow l rest
      else if s = ['.', '.'] then trailWith t follow l.dropLast rest
      else if nameLimit < byteCount s then []
      else (l ++ [s]) :: match t.get? (l ++ [s]) with
        | none => []
        | some (.link target) => follow (linkStart l target) (Text.splitOn '/' target.chars ++ rest)
        | some _ => trailWith t follow (l ++ [s]) rest

/-- The locations that a walk looks at, following so many links at most. -/
def trailFrom (t : FileTree) : Nat → Location → List (List Char) → List Location
  | 0 => t.trailWith fun _ _ => []
  | links + 1 => t.trailWith (trailFrom t links)

/-- The locations that the walk along a path looks at. -/
def trail (t : FileTree) (cwd : Location) (p : Path) : List Location :=
  t.trailFrom linkLimit (linkStart cwd p) (Text.splitOn '/' p.chars)

/-- Whether a path does not lead into a directory: nothing below it is looked at on the way. -/
def Avoids (t : FileTree) (cwd dir : Location) (p : Path) : Prop :=
  ∀ l ∈ t.trail cwd p, ¬ Location.Inside dir l

instance decidableAvoids (t : FileTree) (cwd dir : Location) (p : Path) :
    Decidable (t.Avoids cwd dir p) := inferInstanceAs (Decidable (∀ _ ∈ _, _))

/-- Only the trail of the rest matters if only that trail matters behind a link. -/
theorem walkWith_congr {followLast : Bool}
    {follow follow' : Location → List (List Char) → Except OsError Place}
    {track : Location → List (List Char) → List Location}
    (hfollow : ∀ l segments, (∀ x ∈ track l segments, t'.get? x = t.get? x) →
      follow' l segments = follow l segments)
    {segments : List (List Char)} (h : ∀ x ∈ t.trailWith track l segments, t'.get? x = t.get? x) :
    t'.walkWith followLast follow' l segments = t.walkWith followLast follow l segments := by
  induction segments generalizing l with
  | nil => rw [walkWith, walkWith, h l (by simp [trailWith])]
  | cons s rest ih =>
      rw [trailWith, List.forall_mem_cons] at h
      obtain ⟨hl, h⟩ := h
      rw [walkWith, walkWith, hl]
      by_cases hdir : t.get? l ≠ some .directory
      · rw [if_pos hdir, if_pos hdir]
      rw [if_neg hdir] at h
      rw [if_neg hdir, if_neg hdir]
      by_cases hidle : Path.isIdle s = true
      · rw [if_pos hidle] at h
        rw [if_pos hidle, if_pos hidle, ih h]
      rw [if_neg hidle] at h
      rw [if_neg hidle, if_neg hidle]
      by_cases hup : s = ['.', '.']
      · rw [if_pos hup] at h
        rw [if_pos hup, if_pos hup, ih h]
      rw [if_neg hup] at h
      rw [if_neg hup, if_neg hup]
      by_cases hlong : nameLimit < byteCount s
      · rw [if_pos hlong, if_pos hlong]
      rw [if_neg hlong, List.forall_mem_cons] at h
      rw [if_neg hlong, if_neg hlong, h.1]
      cases hs : t.get? (l ++ [s]) with
      | none => rfl
      | some e =>
          rw [hs] at h
          cases e with
          | file | directory => exact ih h.2
          | link target =>
              dsimp only at h ⊢
              rw [hfollow _ _ h.2]

theorem walkFrom_congr {followLast : Bool} {links : Nat} {segments : List (List Char)}
    (h : ∀ x ∈ t.trailFrom links l segments, t'.get? x = t.get? x) :
    t'.walkFrom followLast links l segments = t.walkFrom followLast links l segments := by
  induction links generalizing l segments with
  | zero => exact walkWith_congr (fun _ _ _ => rfl) h
  | succ links ih => exact walkWith_congr (fun _ _ => ih) h

/-- Only the trail of the rest matters to the trail if that holds behind a link. -/
theorem trailWith_congr {track track' : Location → List (List Char) → List Location}
    (htrack : ∀ l segments, (∀ x ∈ track l segments, t'.get? x = t.get? x) →
      track' l segments = track l segments)
    {segments : List (List Char)} (h : ∀ x ∈ t.trailWith track l segments, t'.get? x = t.get? x) :
    t'.trailWith track' l segments = t.trailWith track l segments := by
  induction segments generalizing l with
  | nil => rfl
  | cons s rest ih =>
      rw [trailWith, List.forall_mem_cons] at h
      obtain ⟨hl, h⟩ := h
      rw [trailWith, trailWith, hl]
      by_cases hdir : t.get? l ≠ some .directory
      · rw [if_pos hdir, if_pos hdir]
      rw [if_neg hdir] at h
      rw [if_neg hdir, if_neg hdir]
      by_cases hidle : Path.isIdle s = true
      · rw [if_pos hidle] at h
        rw [if_pos hidle, if_pos hidle, ih h]
      rw [if_neg hidle] at h
      rw [if_neg hidle, if_neg hidle]
      by_cases hup : s = ['.', '.']
      · rw [if_pos hup] at h
        rw [if_pos hup, if_pos hup, ih h]
      rw [if_neg hup] at h
      rw [if_neg hup, if_neg hup]
      by_cases hlong : nameLimit < byteCount s
      · rw [if_pos hlong, if_pos hlong]
      rw [if_neg hlong, List.forall_mem_cons] at h
      rw [if_neg hlong, if_neg hlong, h.1]
      cases hs : t.get? (l ++ [s]) with
      | none => rfl
      | some e =>
          rw [hs] at h
          cases e with
          | file | directory =>
              dsimp only at h ⊢
              rw [ih h.2]
          | link target =>
              dsimp only at h ⊢
              rw [htrack _ _ h.2]

theorem trailFrom_congr {links : Nat} {segments : List (List Char)}
    (h : ∀ x ∈ t.trailFrom links l segments, t'.get? x = t.get? x) :
    t'.trailFrom links l segments = t.trailFrom links l segments := by
  induction links generalizing l segments with
  | zero => exact trailWith_congr (fun _ _ _ => rfl) h
  | succ links ih => exact trailWith_congr (fun _ _ => ih) h

/-- Trees that agree on the trail of a path have the same trail. -/
theorem trail_congr {cwd : Location} {p : Path}
    (h : ∀ x ∈ t.trail cwd p, t'.get? x = t.get? x) : t'.trail cwd p = t.trail cwd p :=
  trailFrom_congr h

/-- **Only the trail of a path matters to where it leads.** -/
theorem find_congr {cwd : Location} {p : Path}
    (h : ∀ x ∈ t.trail cwd p, t'.get? x = t.get? x) : t'.find cwd p = t.find cwd p := by
  have hwalk : t'.walk true cwd p = t.walk true cwd p := by
    unfold walk
    rw [← linkStart, walkFrom_congr h]
  rw [find, find, hwalk]

end FileTree

end StandardsGate
