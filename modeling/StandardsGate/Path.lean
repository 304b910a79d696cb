import StandardsGate.Text.Lines

/-!
Paths.

A path is kept as it was written. Two spellings of one path differ as texts, but have the same
components: empty segments never count, and a dot counts only where a relative path begins with it.

Main definitions:

* `Path`, `Path.components` — a path, and what it is made of;
* `Path.join`, `Path.parent?`, `Path.fileName?`, `Path.extension?` — a path and its parts;
* `Path.below?` — what is left of a path behind a directory that leads to it.
-/

namespace StandardsGate

/-- A path as it was written. -/
structure Path where
  chars : List Char
deriving DecidableEq, Repr, Inhabited

namespace Path

/-- The path that a text spells. -/
def ofString (s : String) : Path := ⟨s.toList⟩

/-- The text of a path. -/
def text (p : Path) : String := String.ofList p.chars

instance : Coe String Path := ⟨ofString⟩

/-- A part of a path: the root, a leading dot, the way up, or a name. -/
inductive Component
  | root
  | here
  | up
  | name (n : List Char)
deriving DecidableEq, Repr

/-- Whether a segment between slashes counts for nothing. -/
def isIdle (segment : List Char) : Bool := segment.isEmpty || segment == ['.']

/-- The component of a segment between slashes. -/
def segmentComponent? (segment : List Char) : Option Component :=
  if isIdle segment then none
  else if segment = ['.', '.'] then some .up
  else some (.name segment)

/-- How a path begins: with the root, with a dot, or with neither. -/
def lead : List Char → Option Component
  | '/' :: _ => some .root
  | ['.'] => some .here
  | '.' :: '/' :: _ => some .here
  | _ => none

/-- The text of a path's beginning and the segments between the slashes after it. -/
def split (cs : List Char) : List Char × List (List Char) :=
  match lead cs with
  | some _ => (cs.take 1, Text.splitOn '/' (cs.drop 1))
  | none => ([], Text.splitOn '/' cs)

/-- The components of a path. -/
def components (p : Path) : List Component :=
  (lead p.chars).toList ++ (split p.chars).2.filterMap segmentComponent?

/-- Whether two spellings have the same components. -/
def same (p q : Path) : Bool := p.components == q.components

/-- Whether a path begins at the root. -/
def isAbsolute (p : Path) : Bool := p.chars.head? == some '/'

/-- Segments without those at the end that count for nothing. -/
def trimEnd (segments : List (List Char)) : List (List Char) :=
  (segments.reverse.dropWhile isIdle).reverse

/-- A path from its beginning and segments. -/
def ofSegments (start : List Char) (segments : List (List Char)) : Path :=
  ⟨start ++ Text.joinWith ['/'] segments⟩

/-- The name that a path ends in; `none` if it ends in the root, a way up or nothing. -/
def fileName? (p : Path) : Option (List Char) :=
  match p.components.getLast? with
  | some (.name n) => some n
  | _ => none

/-- The path of the directory that holds what a path names. The root and the empty path have
none. -/
def parent? (p : Path) : Option Path :=
  let (start, segments) := split p.chars
  match trimEnd segments with
  | [] => if lead p.chars = some .here then some ⟨[]⟩ else none
  | kept => some (ofSegments start (trimEnd kept.dropLast))

theorem trimEnd_isPrefix (segments : List (List Char)) : trimEnd segments <+: segments := by
  unfold trimEnd
  rw [← List.reverse_suffix, List.reverse_reverse]
  exact List.dropWhile_suffix _

theorem length_joinWith_le (sep : List Char) {a b : List (List Char)} (h : a <+: b) :
    (Text.joinWith sep a).length ≤ (Text.joinWith sep b).length := by
  obtain ⟨c, rfl⟩ := h
  induction a with
  | nil => simp [Text.joinWith]
  | cons x rest ih =>
    cases rest with
    | nil => cases c <;> simp [Text.joinWith]
    | cons y rest =>
      simp only [List.cons_append, Text.joinWith, List.length_append] at ih ⊢
      omega

theorem length_joinWith_dropLast_lt (sep : List Char) {a : List (List Char)} (h : a ≠ [])
    (hlast : a.getLast h ≠ []) :
    (Text.joinWith sep a.dropLast).length < (Text.joinWith sep a).length := by
  induction a with
  | nil => exact absurd rfl h
  | cons x rest ih =>
    cases rest with
    | nil =>
      have : x ≠ [] := by simpa using hlast
      simpa [Text.joinWith] using List.length_pos_iff.2 this
    | cons y rest =>
      have := ih (by simp) (by simpa using hlast)
      cases rest with
      | nil => simp [Text.joinWith] at this ⊢; omega
      | cons z rest =>
        simp only [List.dropLast_cons_cons, Text.joinWith, List.length_append] at this ⊢
        omega

theorem getLast_trimEnd {segments : List (List Char)} (h : trimEnd segments ≠ []) :
    (trimEnd segments).getLast h ≠ [] := by
  unfold trimEnd at h ⊢
  rw [List.getLast_reverse]
  intro he
  have hne : segments.reverse.dropWhile isIdle ≠ [] := by simpa using h
  have := List.head_dropWhile_not isIdle hne
  rw [he] at this
  simp [isIdle] at this

theorem length_split (cs : List Char) :
    (split cs).1.length + (Text.joinWith ['/'] (split cs).2).length = cs.length := by
  unfold split
  split
  · rename_i h
    rw [Text.joinWith_splitOn]
    cases cs with
    | nil => simp [lead] at h
    | cons c rest => simp; omega
  · simp [Text.joinWith_splitOn]

theorem length_parent_lt {p q : Path} (h : p.parent? = some q) :
    q.chars.length < p.chars.length := by
  unfold parent? at h
  have hs := length_split p.chars
  generalize hp : split p.chars = s at h hs
  obtain ⟨start, segments⟩ := s
  dsimp only at h hs
  split at h
  · split at h
    · rename_i hl
      obtain rfl := Option.some.inj h
      cases hc : p.chars with
      | nil => rw [hc] at hl; simp [lead] at hl
      | cons c rest => simp
    · simp at h
  · rename_i kept hne
    obtain rfl := Option.some.inj h
    have h1 := length_joinWith_le ['/'] (trimEnd_isPrefix (trimEnd segments).dropLast)
    have h2 := length_joinWith_dropLast_lt ['/'] hne (getLast_trimEnd hne)
    have h3 := length_joinWith_le ['/'] (trimEnd_isPrefix segments)
    simp only [ofSegments, List.length_append]
    omega

/-- A path read from a directory on. An absolute path stays as it is. -/
def join (dir p : Path) : Path :=
  if p.isAbsolute then p
  else match dir.chars.getLast? with
    | none => p
    | some '/' => ⟨dir.chars ++ p.chars⟩
    | some _ => ⟨dir.chars ++ '/' :: p.chars⟩

/-- A path made absolute: a relative one is read from the base on. -/
def absolutize (p base : Path) : Path := if p.isAbsolute then p else base.join p

/-- Drops the components of a base in front of segments. -/
def dropComponents : Nat → List (List Char) → List (List Char)
  | 0, segments => segments
  | _, [] => []
  | n + 1, s :: rest =>
    if (segmentComponent? s).isSome then dropComponents n rest else dropComponents (n + 1) rest

/-- What a path leaves behind a base whose components it begins with. -/
def below? (p base : Path) : Option Path :=
  let cs := base.components
  if !cs.isPrefixOf p.components then none
  else
    let (start, segments) := split p.chars
    match cs, lead p.chars with
    | [], _ => some (ofSegments start (trimEnd segments))
    | _ :: _, some _ =>
      some (ofSegments [] (trimEnd ((dropComponents (cs.length - 1) segments).dropWhile isIdle)))
    | _ :: _, none =>
      some (ofSegments [] (trimEnd ((dropComponents cs.length segments).dropWhile isIdle)))

/-- What follows the last dot of a name that does not begin with that dot. -/
def nameExtension? (n : List Char) : Option (List Char) :=
  let tail := n.reverse.takeWhile (· != '.')
  if tail.length + 1 < n.length then some tail.reverse else none

/-- The extension of the name that a path ends in. -/
def extension? (p : Path) : Option (List Char) := p.fileName?.bind nameExtension?

/-- A path with slashes instead of backslashes. -/
def slashed (cs : List Char) : List Char := cs.map fun c => if c = '\\' then '/' else c

end Path

end StandardsGate
