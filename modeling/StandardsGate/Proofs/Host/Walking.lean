import StandardsGate.Proofs.Host.Trail
import StandardsGate.Proofs.Text.Lines

/-!
Where the path of a location leads.

A location is written as a path by its names. Such a path leads back to the location, as long as
everything on the way to it is a directory: what stands there is found, or the place is free. So
files are created at locations and moved between them.

Main definitions:

* `Location.IsPlain` — a location whose path means what it says;
* `FileTree.Reaches` — everything on the way to a location is a directory;
* `FileTree.placeAt` — what is found at a location.

Main results:

* `FileTree.walkFrom_names` — names lead from directory to directory;
* `FileTree.walk_path` — **the path of a location leads to it**;
* `FileTree.create_path_of_none`, `FileTree.create_path_of_file` — creating a file at a location;
* `FileTree.rename_path` — moving a file to a free location.
-/

namespace StandardsGate

/-- Whether a segment of a path is a name that an entry can have. -/
def Path.IsName (n : List Char) : Prop :=
  Path.isIdle n = false ∧ n ≠ ['.', '.'] ∧ '/' ∉ n ∧ '\x00' ∉ n ∧
    FileTree.byteCount n ≤ FileTree.nameLimit

theorem Path.IsName.isEntryName {n : List Char} (h : Path.IsName n) : Path.IsEntryName n :=
  ⟨h.1, h.2.1⟩

theorem Path.IsName.short {n : List Char} (h : Path.IsName n) :
    FileTree.byteCount n ≤ FileTree.nameLimit := h.2.2.2.2

instance Path.decidableIsName (n : List Char) : Decidable (Path.IsName n) :=
  inferInstanceAs (Decidable (_ ∧ _))

/-- A location whose path means what it says. It is not the root. -/
def Location.IsPlain (l : Location) : Prop :=
  l ≠ [] ∧ (∀ n ∈ l, Path.IsName n) ∧ FileTree.byteCount l.path.chars ≤ FileTree.pathLimit

instance Location.decidableIsPlain (l : Location) : Decidable l.IsPlain :=
  inferInstanceAs (Decidable (_ ∧ _))

namespace FileTree

/-- Whether everything on the way to a location is a directory. -/
def Reaches (t : FileTree) (l : Location) : Prop :=
  l.IsPlain ∧ ∀ i < l.length, t.get? (l.take i) = some .directory

instance decidableReaches (t : FileTree) (l : Location) : Decidable (t.Reaches l) :=
  inferInstanceAs (Decidable (_ ∧ _))

theorem Reaches.put_self {t : FileTree} {l : Location} (h : t.Reaches l) (e : Entry) :
    (t.put l e).Reaches l := by
  refine ⟨h.1, fun i hi => ?_⟩
  have hne : l.take i ≠ l := fun htake => by
    have hlength := congrArg List.length htake
    rw [List.length_take] at hlength
    omega
  rw [get?_put h.1.1, if_neg hne, h.2 i hi]

/-- What is found at a location. -/
def placeAt (t : FileTree) (l : Location) : Place :=
  match t.get? l with
  | some e => .taken l e
  | none => .free l

variable {t : FileTree} {followLast : Bool} {links : Nat}

/-- The last name leads to what stands there, or to a free place. -/
theorem walkFrom_last {l : Location} {n : List Char} (hl : t.get? l = some .directory)
    (hn : Path.IsEntryName n) (hshort : byteCount n ≤ nameLimit)
    (hlink : (t.get? (l ++ [n])).any Entry.isLink = false) :
    t.walkFrom followLast links l [n] = .ok (t.placeAt (l ++ [n])) := by
  rw [placeAt]
  cases he : t.get? (l ++ [n]) with
  | some e =>
      rw [he] at hlink
      rw [walkFrom_of_entry hl hn hshort he hlink, walkFrom_nil_of_some he]
  | none => rw [walkFrom_of_none hl hn hshort he, List.all_nil, if_pos rfl]

/-- **Names lead from directory to directory**, and the last one to what stands there. -/
theorem walkFrom_names {l ns : Location} {n : List Char} (hnames : ∀ m ∈ ns ++ [n], Path.IsName m)
    (hway : ∀ i ≤ ns.length, t.get? (l ++ ns.take i) = some .directory)
    (hlink : (t.get? (l ++ ns ++ [n])).any Entry.isLink = false) :
    t.walkFrom followLast links l (ns ++ [n]) = .ok (t.placeAt (l ++ ns ++ [n])) := by
  induction ns generalizing l with
  | nil =>
      have hl := hway 0 (Nat.le_refl 0)
      simp only [List.append_nil, List.take_nil, List.nil_append, List.mem_singleton,
        forall_eq] at hl hlink hnames ⊢
      exact walkFrom_last hl hnames.isEntryName hnames.short hlink
  | cons m ns ih =>
      rw [List.cons_append, List.forall_mem_cons] at hnames
      have hl := hway 0 (Nat.zero_le _)
      have hm := hway 1 (by simp)
      have hsplit : l ++ m :: ns = l ++ [m] ++ ns := by simp
      rw [List.take_zero, List.append_nil] at hl
      rw [hsplit] at hlink ⊢
      rw [List.cons_append, walkFrom_of_entry hl hnames.1.isEntryName hnames.1.short hm rfl]
      refine ih hnames.2 (fun i hi => ?_) hlink
      simpa using hway (i + 1) (Nat.succ_le_succ hi)

/-- The path of a location has its names for segments. -/
theorem splitOn_path {l : Location} (hne : l ≠ []) (h : ∀ n ∈ l, '/' ∉ n) :
    Text.splitOn '/' l.path.chars = [] :: l := by
  have hparts : ∀ {n : List Char} {l : Location}, '/' ∉ n → (∀ n ∈ l, '/' ∉ n) →
      Text.splitOn '/' (n ++ l.flatMap fun n => '/' :: n) = n :: l := by
    intro n l hn hl
    induction l generalizing n with
    | nil =>
        rw [List.flatMap_nil, List.append_nil]
        exact Text.splitOn_eq_singleton hn
    | cons m l ih =>
        obtain ⟨hm, hl⟩ := List.forall_mem_cons.1 hl
        rw [List.flatMap_cons, List.cons_append, Text.splitOn_append_cons, ih hm hl,
          Text.splitOn_eq_singleton hn]
        rfl
  cases l with
  | nil => exact absurd rfl hne
  | cons n l => exact hparts (n := []) (by simp) h

/-- **The path of a location leads to it.** -/
theorem walk_path {l : Location} (h : t.Reaches l) (cwd : Location)
    (hlink : (t.get? l).any Entry.isLink = false) :
    t.walk followLast cwd l.path = .ok (t.placeAt l) := by
  obtain ⟨⟨hne, hnames, hshort⟩, hway⟩ := h
  obtain ⟨ns, n, rfl⟩ : ∃ ns n, l = ns ++ [n] :=
    ⟨_, _, (List.dropLast_concat_getLast hne).symm⟩
  have hchars : Location.path (ns ++ [n]) = ⟨(ns ++ [n]).flatMap fun n => '/' :: n⟩ := by
    rw [Location.path, if_neg (by simp)]
  have habsolute : (Location.path (ns ++ [n])).isAbsolute = true := by
    rw [hchars]
    cases ns <;> rfl
  have hnull : (Location.path (ns ++ [n])).chars.contains '\x00' = false := by
    rw [hchars, ← Bool.not_eq_true, List.contains_iff_mem, List.mem_flatMap]
    rintro ⟨m, hm, hmem⟩
    rcases List.mem_cons.1 hmem with h | h
    · cases h
    · exact (hnames m hm).2.2.2.1 h
  have hsome : (Location.path (ns ++ [n])).chars.isEmpty = false := by
    rw [hchars]
    cases ns <;> rfl
  rw [walk, hnull, if_neg Bool.false_ne_true, hsome, if_neg Bool.false_ne_true,
    if_neg (Nat.not_lt.2 hshort), habsolute, if_pos rfl,
    splitOn_path hne fun m hm => (hnames m hm).2.2.1]
  have hnamed : t.walkFrom followLast linkLimit [] (ns ++ [n]) = .ok (t.placeAt (ns ++ [n])) := by
    refine walkFrom_names (l := []) hnames (fun i hi => ?_) hlink
    have hi' : i < (ns ++ [n]).length := by
      rw [List.length_append, List.length_singleton]
      omega
    rw [List.nil_append, ← List.take_append_of_le_length hi]
    exact hway i hi'
  -- the empty segment in front of the names stays at the root
  rw [walkFrom_of_isIdle (by simp [get?]) (show Path.isIdle [] = true by decide), hnamed]
  rfl

theorem walk_path_of_some {l : Location} (h : t.Reaches l) (cwd : Location) {e : Entry}
    (he : t.get? l = some e) (hlink : e.isLink = false) :
    t.walk followLast cwd l.path = .ok (.taken l e) := by
  rw [walk_path h cwd (by rw [he]; exact hlink), placeAt, he]

theorem walk_path_of_none {l : Location} (h : t.Reaches l) (cwd : Location)
    (he : t.get? l = none) : t.walk followLast cwd l.path = .ok (.free l) := by
  rw [walk_path h cwd (by rw [he]; rfl), placeAt, he]

theorem find_path {l : Location} (h : t.Reaches l) (cwd : Location) {e : Entry}
    (he : t.get? l = some e) (hlink : e.isLink = false) : t.find cwd l.path = .ok (l, e) := by
  rw [find, walk_path_of_some h cwd he hlink]
  rfl

/-! ### Files at locations -/

variable {l l' : Location} {cwd : Location}

/-- The path of a location ends in a name. -/
theorem exists_splitOn_path (h : l.IsPlain) :
    ∃ ns n, n ≠ [] ∧ n ≠ ['.'] ∧ n ≠ ['.', '.'] ∧ Text.splitOn '/' l.path.chars = ns ++ [n] := by
  obtain ⟨hne, hnames, -⟩ := h
  obtain ⟨hidle, hup, -⟩ := hnames _ (List.getLast_mem hne)
  have hbusy : l.getLast hne ≠ [] ∧ l.getLast hne ≠ ['.'] := by simpa [Path.isIdle] using hidle
  refine ⟨[] :: l.dropLast, l.getLast hne, hbusy.1, hbusy.2, hup, ?_⟩
  rw [splitOn_path hne fun n hn => (hnames n hn).2.2.1, List.cons_append,
    List.dropLast_concat_getLast]

theorem directoryPart_path (h : l.IsPlain) : (directoryPart l.path).2 = true := by
  obtain ⟨ns, n, hempty, hdot, hup, hsplit⟩ := exists_splitOn_path h
  have hkept : ((ns ++ [n]).reverse.dropWhile List.isEmpty).reverse = ns ++ [n] := by
    rw [List.reverse_append, List.reverse_singleton, List.singleton_append,
      List.dropWhile_cons_of_neg (by simp [hempty])]
    simp
  unfold directoryPart
  rw [hsplit]
  dsimp only
  rw [hkept, List.getLast?_concat]
  simp [hdot, hup]

theorem writable_path_of_none (h : t.Reaches l) (hnone : t.get? l = none) :
    t.writable cwd l.path = .ok (.free l) := by
  have hfile : (t.put l (.file [] false)).isFile cwd l.path = true := by
    rw [isFile, find_path (h.put_self _) cwd (by rw [get?_put h.1.1, if_pos rfl]) rfl]
  unfold writable
  dsimp only
  rw [directoryPart_path h.1, walk_path_of_none h cwd hnone]
  exact if_pos hfile

theorem writable_path_of_file (h : t.Reaches l) {before : Bytes} {runnable : Bool}
    (hsome : t.get? l = some (.file before runnable)) :
    t.writable cwd l.path = .ok (.taken l (.file before runnable)) := by
  unfold writable
  dsimp only
  rw [directoryPart_path h.1, walk_path_of_some h cwd hsome rfl]
  rfl

/-- Creating a file at a free location puts it there. -/
theorem create_path_of_none (h : t.Reaches l) (hnone : t.get? l = none) (content : Bytes) :
    t.create cwd l.path content = .ok (t.put l (.file content false)) := by
  rw [create, writable_path_of_none h hnone]
  rfl

/-- Creating a file where there is one replaces its content. -/
theorem create_path_of_file (h : t.Reaches l) {before : Bytes} {runnable : Bool}
    (hsome : t.get? l = some (.file before runnable)) (content : Bytes) :
    t.create cwd l.path content = .ok (t.put l (.file content runnable)) := by
  rw [create, writable_path_of_file h hsome]
  rfl

/-- What stands at one location is moved to another one that is free. -/
theorem rename_path (h : t.Reaches l) {e : Entry} (hsome : t.get? l = some e)
    (hlink : e.isLink = false) (h' : t.Reaches l') (hnone : t.get? l' = none) :
    t.rename cwd l.path l'.path = .ok ((t.erase l).put l' e) := by
  obtain ⟨ns, n, hempty, hdot, hup, hsplit⟩ := exists_splitOn_path h'.1
  unfold rename
  rw [walk_path_of_some h cwd hsome hlink, hsplit, List.getLast?_concat,
    walk_path_of_none h' cwd hnone]
  change (if (some n = some ['.'] || some n = some ['.', '.']) = true then _ else
    if (some n = some [] && !l'.path.chars.isEmpty) = true then _ else _) = _
  rw [if_neg (by simp [hdot, hup]), if_neg (by simp [hempty])]
  rfl

end FileTree

end StandardsGate
