import StandardsGate.Proofs.Host.Directories
import StandardsGate.Proofs.OrderedMap

/-!
The places that paths lead to.

The names of such a place are names of the working directory, segments of the path, or segments of
links. So they have no slashes, which makes the path of a place its own, and their length is bounded
by that of the texts that they come from.

Main definitions:

* `Location.IsProper` — a location whose names are names of entries;
* `FileTree.LinksWithin` — a bound for the targets of links.

Main results:

* `FileTree.isProper_of_find` — the places that paths lead to are proper;
* `Location.same_path_iff` — **proper locations are told apart by their paths**;
* `FileTree.length_path_of_find` — **how long the path of a place can be**.
-/

namespace StandardsGate

/-! ### Proper locations -/

/-- Whether the names of a location are names of entries. -/
def Location.IsProper (l : Location) : Prop := ∀ n ∈ l, Path.IsPlainName n

instance Path.decidableIsEntryName (s : List Char) : Decidable (Path.IsEntryName s) :=
  inferInstanceAs (Decidable (_ ∧ _))

instance Path.decidableIsPlainName (s : List Char) : Decidable (Path.IsPlainName s) :=
  inferInstanceAs (Decidable (_ ∧ _))

instance Location.decidableIsProper (l : Location) : Decidable l.IsProper :=
  inferInstanceAs (Decidable (∀ _ ∈ _, _))

theorem Location.IsProper.dropLast {l : Location} (h : l.IsProper) :
    Location.IsProper l.dropLast := fun n hn => h n (List.dropLast_subset l hn)

theorem Location.IsProper.concat {l : Location} (h : l.IsProper) {n : List Char}
    (hn : Path.IsPlainName n) : Location.IsProper (l ++ [n]) := by
  intro m hm
  rcases List.mem_append.1 hm with hm | hm
  · exact h m hm
  · rw [List.mem_singleton.1 hm]
    exact hn

namespace FileTree

variable {t : FileTree} {links left : Nat} {l x cwd : Location} {e : Entry}
  {segments : List (List Char)} {p : Path}

theorem isProper_linkStart (h : l.IsProper) (target : Path) :
    Location.IsProper (linkStart l target) := by
  unfold linkStart
  split
  · exact fun n hn => absurd hn List.not_mem_nil
  · exact h

theorem Leads.isProper (h : t.Leads links l segments left x) (hl : l.IsProper)
    (hsegments : ∀ s ∈ segments, '/' ∉ s) : x.IsProper := by
  induction h with
  | here => exact hl
  | idle _ _ _ ih => exact ih hl fun s hs => hsegments s (List.mem_cons_of_mem _ hs)
  | up _ _ ih => exact ih hl.dropLast fun s hs => hsegments s (List.mem_cons_of_mem _ hs)
  | entry _ hs _ _ _ _ ih =>
      exact ih (hl.concat ⟨hs, hsegments _ List.mem_cons_self⟩)
        fun s hs => hsegments s (List.mem_cons_of_mem _ hs)
  | link _ _ _ _ _ ih =>
      refine ih (isProper_linkStart hl _) fun s hs => ?_
      rcases List.mem_append.1 hs with hs | hs
      · exact Text.not_mem_of_mem_splitOn hs
      · exact hsegments s (List.mem_cons_of_mem _ hs)

/-- The places that paths lead to are proper. -/
theorem isProper_of_find (h : t.find cwd p = .ok (x, e)) (hcwd : cwd.IsProper) : x.IsProper := by
  obtain ⟨-, ⟨left, hleads⟩, -⟩ := find_eq_ok_iff.1 h
  exact hleads.isProper (isProper_linkStart hcwd p) fun _ hs => Text.not_mem_of_mem_splitOn hs

end FileTree

/-! ### The path of a location -/

theorem Location.splitOn_flatMap {n : List Char} {l : Location} (hn : '/' ∉ n)
    (hl : ∀ m ∈ l, '/' ∉ m) :
    Text.splitOn '/' (n ++ l.flatMap fun n => '/' :: n) = n :: l := by
  induction l generalizing n with
  | nil =>
      rw [List.flatMap_nil, List.append_nil]
      exact Text.splitOn_eq_singleton hn
  | cons m l ih =>
      obtain ⟨hm, hl⟩ := List.forall_mem_cons.1 hl
      rw [List.flatMap_cons, List.cons_append, Text.splitOn_append_cons, ih hm hl,
        Text.splitOn_eq_singleton hn]
      rfl

theorem Location.steps_path {l : Location} (h : l.IsProper) : l.path.steps = l := by
  unfold Location.path
  split
  · rename_i hempty
    rw [List.isEmpty_iff.1 hempty]
    rfl
  · have hsplit := splitOn_flatMap (n := []) (l := l) (by simp) fun m hm => (h m hm).2
    rw [List.nil_append] at hsplit
    rw [Path.steps, hsplit, List.filter_cons_of_neg (by decide), List.filter_eq_self]
    intro n hn
    simp [(h n hn).1.1]

theorem Location.components_path {l : Location} (h : l.IsProper) :
    l.path.components = .root :: l.map Path.Component.name := by
  have hlead : Path.lead l.path.chars = some .root := by
    unfold Location.path
    split
    · rfl
    · cases l with
      | nil => contradiction
      | cons n l => rfl
  rw [Path.components_eq, hlead, steps_path h]
  refine congrArg (Path.Component.root :: ·) (List.map_congr_left fun n hn => ?_)
  exact if_neg (h n hn).1.2

/-- **Proper locations are told apart by their paths.** -/
theorem Location.same_path_iff {l l' : Location} (h : l.IsProper) (h' : l'.IsProper) :
    l.path.same l'.path = true ↔ l = l' := by
  rw [Path.same, beq_iff_eq, components_path h, components_path h', List.cons.injEq,
    and_iff_right rfl]
  refine (List.map_injective_iff.2 ?_).eq_iff
  exact fun n m hnm => Path.Component.name.inj hnm

theorem Location.path_injective {l l' : Location} (h : l.IsProper) (h' : l'.IsProper)
    (hpath : l.path = l'.path) : l = l' :=
  (Location.same_path_iff h h').1 (by simp [hpath, Path.same])

/-! ### How long paths can be -/

/-- The number of characters of names with a slash in front of each. -/
def Location.extent (l : Location) : Nat := (l.flatMap fun n => '/' :: n).length

theorem Location.extent_append (l l' : Location) :
    Location.extent (l ++ l') = l.extent + Location.extent l' := by
  simp [extent]

theorem Location.extent_cons (n : List Char) (l : Location) :
    Location.extent (n :: l) = n.length + 1 + Location.extent l := by
  rw [extent, List.flatMap_cons, List.length_append, List.length_cons]
  rfl

theorem Location.extent_dropLast_le (l : Location) : Location.extent l.dropLast ≤ l.extent := by
  obtain ⟨rest, hrest⟩ := List.dropLast_prefix l
  calc Location.extent l.dropLast ≤ Location.extent l.dropLast + Location.extent rest :=
        Nat.le_add_right _ _
    _ = l.extent := by rw [← extent_append, hrest]

/-- The parts of a text have one character more than the text, each counted with a slash. -/
theorem Location.extent_splitOn (cs : List Char) :
    Location.extent (Text.splitOn '/' cs) = cs.length + 1 := by
  have hconsHead : ∀ (c : Char) (parts : List (List Char)), parts ≠ [] →
      Location.extent (Text.consHead c parts) = Location.extent parts + 1 := by
    intro c parts hne
    cases parts with
    | nil => exact absurd rfl hne
    | cons part parts =>
        rw [Text.consHead, extent_cons, extent_cons, List.length_cons]
        omega
  induction cs with
  | nil => rfl
  | cons c cs ih =>
      rw [Text.splitOn]
      split
      · rw [extent_cons, ih, List.length_nil, List.length_cons]
        omega
      · rw [hconsHead c _ (by simp), ih, List.length_cons]

theorem Location.extent_le_length_path (l : Location) : l.extent ≤ l.path.chars.length := by
  unfold path
  split
  · rename_i hempty
    rw [List.isEmpty_iff.1 hempty]
    exact Nat.zero_le _
  · exact Nat.le_refl _

theorem Location.length_path_le (l : Location) : l.path.chars.length ≤ max 1 l.extent := by
  unfold path
  split
  · exact Nat.le_max_left ..
  · exact Nat.le_max_right ..

namespace FileTree

variable {t : FileTree} {links left longest : Nat} {l x cwd : Location} {e : Entry}
  {segments : List (List Char)} {p : Path}

/-- What stands at a location other than the root is one of the entries. -/
theorem mem_entries_of_get? (hne : l ≠ []) (h : t.get? l = some e) : (l, e) ∈ t.entries.entries := by
  rw [get?_of_ne_nil hne] at h
  exact (OrderedMap.lookup_eq_some_iff_mem t.entries.distinct).1 h

/-- Whether nothing is a link can be told from the entries. -/
theorem linkless_of_entries (h : ∀ e ∈ t.entries.entries, e.2.isLink = false) : t.Linkless := by
  intro l target hl
  have hne : l ≠ [] := by
    rintro rfl
    cases hl
  cases h _ (mem_entries_of_get? hne hl)

/-- Whether nothing stands in a directory can be told from the entries. -/
theorem get?_inside_of_entries {dir : Location}
    (h : ∀ e ∈ t.entries.entries, ¬ Location.Inside dir e.1) (hl : Location.Inside dir l) :
    t.get? l = none := by
  cases he : t.get? l with
  | none => rfl
  | some e =>
      have hne : l ≠ [] := by
        rintro rfl
        exact hl.2 (List.prefix_nil.1 hl.1).symm
      exact absurd hl (h _ (mem_entries_of_get? hne he))

/-- No link of a tree has a target that is longer than that. -/
def LinksWithin (t : FileTree) (longest : Nat) : Prop :=
  ∀ l target, t.get? l = some (.link target) → target.chars.length ≤ longest

theorem length_le_longestTarget {es : List (Location × Entry)} {l : Location} {target : Path}
    (h : (l, Entry.link target) ∈ es) (n : Nat) :
    target.chars.length ≤ es.foldl (fun n e => match e.2 with
      | .link target => max n target.chars.length
      | _ => n) n := by
  have hgrow : ∀ (es : List (Location × Entry)) (n : Nat), n ≤ es.foldl (fun n e => match e.2 with
      | .link target => max n target.chars.length
      | _ => n) n := by
    intro es
    induction es with
    | nil => exact fun n => Nat.le_refl n
    | cons e es ih =>
        intro n
        rw [List.foldl_cons]
        refine Nat.le_trans ?_ (ih _)
        split
        · exact Nat.le_max_left ..
        · exact Nat.le_refl n
  induction es generalizing n with
  | nil => exact absurd h List.not_mem_nil
  | cons e es ih =>
      rw [List.foldl_cons]
      rcases List.mem_cons.1 h with rfl | h
      · exact Nat.le_trans (Nat.le_max_right ..) (hgrow es _)
      · exact ih h _

theorem linksWithin_longestTarget (t : FileTree) : t.LinksWithin t.longestTarget := by
  intro l target hl
  have hne : l ≠ [] := by
    rintro rfl
    cases hl
  exact length_le_longestTarget (mem_entries_of_get? hne hl) 0

theorem extent_linkStart_le (l : Location) (target : Path) :
    Location.extent (linkStart l target) ≤ l.extent := by
  unfold linkStart
  split
  · exact Nat.zero_le _
  · exact Nat.le_refl _

/-- What a walk leads to is made of its start, its segments and the links on its way. -/
theorem Leads.extent_le (h : t.Leads links l segments left x) (hlinks : t.LinksWithin longest) :
    x.extent ≤ l.extent + Location.extent segments + links * (longest + 1) := by
  induction h with
  | here => omega
  | idle _ _ _ ih =>
      rw [Location.extent_cons]
      omega
  | @up _ _ l _ _ _ _ ih =>
      have := Location.extent_dropLast_le l
      rw [Location.extent_cons]
      omega
  | entry _ _ _ _ _ _ ih =>
      rw [Location.extent_append, Location.extent_cons] at ih
      rw [Location.extent_cons]
      have : Location.extent [] = 0 := rfl
      omega
  | @link links _ l _ _ _ target _ _ _ he _ ih =>
      have := extent_linkStart_le l target
      have := hlinks _ _ he
      rw [Location.extent_append, Location.extent_splitOn] at ih
      rw [Location.extent_cons, Nat.succ_mul]
      omega

theorem length_le_byteCount (cs : List Char) : cs.length ≤ byteCount cs := by
  induction cs with
  | nil => exact Nat.le_refl 0
  | cons c cs ih =>
      have := c.utf8Size_pos
      rw [List.length_cons, byteCount, List.foldr_cons]
      rw [byteCount] at ih
      omega

theorem byteCount_append (cs cs' : List Char) :
    byteCount (cs ++ cs') = byteCount cs + byteCount cs' := by
  induction cs with
  | nil => exact (Nat.zero_add _).symm
  | cons c cs ih =>
      have hcons : ∀ cs, byteCount (c :: cs) = c.utf8Size + byteCount cs := fun _ => rfl
      rw [List.cons_append, hcons, hcons, ih, Nat.add_assoc]

/-- **How long the path of a place can be** that a path leads to. -/
theorem length_path_of_find (h : t.find cwd p = .ok (x, e)) (hlinks : t.LinksWithin longest) :
    x.path.chars.length ≤
      cwd.path.chars.length + (pathLimit + 1) + linkLimit * (longest + 1) := by
  obtain ⟨⟨-, -, hshort⟩, ⟨left, hleads⟩, -⟩ := find_eq_ok_iff.1 h
  have hx := hleads.extent_le hlinks
  have hstart := extent_linkStart_le cwd p
  have hlength := length_le_byteCount p.chars
  have hcwd := Location.extent_le_length_path cwd
  have hpath := Location.length_path_le x
  rw [Location.extent_splitOn] at hx
  have hone : 1 ≤ pathLimit := by decide
  omega

end FileTree

end StandardsGate
