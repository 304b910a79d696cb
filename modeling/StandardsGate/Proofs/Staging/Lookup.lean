import StandardsGate.Proofs.Staging.Graph

/-!
Where entries lead among links.

An entry is joined to the path by which its configuration was reached, and the joined path is looked
up. That comes to the same as looking the entry up in the directory that this path leads to, links or
no links, but for the limits: the joined path is longer than the entry, and links on the way to the
directory leave fewer for the entry itself.

Main definitions:

* `FileTree.IsHome` — the directory in which a path ends in its name;
* `FileTree.BeyondLimits` — a path that is too long or has too many links on its way.

Main results:

* `FileTree.Leads.fewer` — with fewer links at hand a walk leads to the same place, or runs out of them;
* `FileTree.exists_isHome` — a path that leads to a file has a directory;
* `Staging.isFile_entryPath_iff` — **an entry leads to a file if it does from the directory of its
  configuration, within the limits**.
-/

namespace StandardsGate

namespace FileTree

variable {t : FileTree} {links left : Nat} {cwd home l x y : Location} {p : Path}
  {segments rest : List (List Char)} {content : Bytes} {runnable : Bool} {name : List Char}

/-! ### More links and fewer -/

/-- **With fewer links at hand** a walk leads to the same place, or runs out of links. -/
theorem Leads.fewer (h : t.Leads links l segments left x) {few : Nat} (hfew : few ≤ links) :
    (∃ left', t.Leads few l segments left' x) ∨
      t.walkFrom true few l segments = .error .tooManyLinks := by
  induction h generalizing few with
  | here => exact .inl ⟨few, .here few _⟩
  | idle hl hs _ ih =>
      rw [walkFrom_of_isIdle hl hs]
      exact (ih hfew).imp_left fun ⟨left', more⟩ => ⟨left', .idle hl hs more⟩
  | up hl _ ih =>
      rw [walkFrom_up hl]
      exact (ih hfew).imp_left fun ⟨left', more⟩ => ⟨left', .up hl more⟩
  | entry hl hs hshort he hlink _ ih =>
      rw [walkFrom_of_entry hl hs hshort he hlink]
      exact (ih hfew).imp_left fun ⟨left', more⟩ => ⟨left', .entry hl hs hshort he hlink more⟩
  | link hl hs hshort he _ ih =>
      cases few with
      | zero => exact .inr (walkFrom_of_link_zero hl hs hshort he (.inr rfl))
      | succ few =>
          rw [walkFrom_of_link_succ hl hs hshort he (.inr rfl)]
          exact (ih (Nat.le_of_succ_le_succ hfew)).imp_left fun ⟨left', more⟩ =>
            ⟨left', .link hl hs hshort he more⟩

/-- More links at hand are left over. -/
theorem Leads.more (h : t.Leads links l segments left x) (k : Nat) :
    t.Leads (links + k) l segments (left + k) x := by
  induction h with
  | here => exact .here _ _
  | idle hl hs _ ih => exact .idle hl hs ih
  | up hl _ ih => exact .up hl ih
  | entry hl hs hshort he hlink _ ih => exact .entry hl hs hshort he hlink ih
  | link hl hs hshort he _ ih =>
      rw [Nat.add_right_comm]
      exact .link hl hs hshort he ih

theorem Leads.left_le (h : t.Leads links l segments left x) : left ≤ links := by
  induction h with
  | here => exact Nat.le_refl _
  | idle _ _ _ ih | up _ _ ih | entry _ _ _ _ _ _ ih => exact ih
  | link _ _ _ _ _ ih => exact Nat.le_succ_of_le ih

/-- A walk leads to one directory. -/
theorem Leads.directory_unique {left' : Nat} (h : t.Leads links l segments left x)
    (h' : t.Leads links l segments left' y) (hx : t.get? x = some .directory)
    (hy : t.get? y = some .directory) : x = y := by
  have hfound := walkFrom_eq_taken_iff.2 ⟨left, h, hx⟩
  have hfound' := walkFrom_eq_taken_iff.2 ⟨left', h', hy⟩
  cases hfound.symm.trans hfound'
  rfl

/-! ### The directory of a path -/

/-- Whether a location is that of the directory in which a path ends in its name: the working
directory for a name alone. -/
structure IsHome (t : FileTree) (cwd : Location) (p : Path) (home : Location) : Prop where
  directory : t.get? home = some .directory
  found : ∃ b, p.parent? = some b ∧
    (b.chars = [] ∧ home = cwd ∨ t.find cwd b = .ok (home, .directory))

/-- The segments in front of the name lead to the directory, however they are spelled. -/
theorem IsHome.exists_leads (h : t.IsHome cwd p home) (hname : p.fileName? = some name)
    (hsegments : segments.filter (fun s => !Path.isIdle s) = p.steps.dropLast) :
    ∃ left, t.Leads linkLimit (linkStart cwd p) segments left home := by
  obtain ⟨b, hparent, hsteps, hroot⟩ := Path.exists_parent hname
  obtain ⟨b', hparent', hfound⟩ := h.found
  obtain rfl : b = b' := Option.some.inj (hparent.symm.trans hparent')
  have hstart : linkStart cwd p = linkStart cwd b := by rw [linkStart, linkStart, hroot]
  rw [hstart]
  rcases hfound with ⟨hempty, rfl⟩ | hfound
  · have hnil : p.steps.dropLast = [] := by
      rw [← hsteps, Path.steps, hempty]
      rfl
    have hrelative : linkStart home b = home := by
      rw [linkStart, Path.isAbsolute, hempty]
      rfl
    rw [hrelative]
    rw [hnil] at hsegments
    exact ⟨linkLimit, (Leads.here linkLimit home).of_filter_eq h.directory hsegments.symm⟩
  · obtain ⟨-, ⟨left, hleads⟩, -⟩ := find_eq_ok_iff.1 hfound
    exact ⟨left, hleads.of_filter_eq h.directory (hsteps.trans hsegments.symm)⟩

/-- A path that leads to a file by a name has a directory. -/
theorem exists_isHome (hfind : t.find cwd p = .ok (l, .file content runnable))
    (hname : p.fileName? = some name) : ∃ home, t.IsHome cwd p home := by
  obtain ⟨init, between, left, home, -, hinit, hfront, hhome, -⟩ := exists_last_of_find hfind hname
  obtain ⟨b, hparent, hsteps, hroot⟩ := Path.exists_parent hname
  have hstart : linkStart cwd p = linkStart cwd b := by rw [linkStart, linkStart, hroot]
  refine ⟨home, hhome, b, hparent, ?_⟩
  have hleads := hfront.of_filter_eq hhome (hinit.trans hsteps.symm)
  rw [hstart] at hleads
  by_cases hempty : b.chars = []
  · rw [linkStart, Path.isAbsolute, hempty] at hleads
    cases hleads with
    | idle _ _ more =>
        cases more
        exact .inl ⟨hempty, rfl⟩
    | entry _ hs | link _ hs => cases hs.1
  · obtain ⟨⟨hnull, -, hshort⟩, -⟩ := find_eq_ok_iff.1 hfind
    obtain ⟨more, hmore⟩ := Path.parent?_isPrefix hparent
    rw [← hmore] at hnull hshort
    rw [byteCount_append] at hshort
    exact .inr (find_eq_ok_iff.2 ⟨⟨fun hmem => hnull (List.mem_append_left _ hmem), hempty,
      Nat.le_trans (Nat.le_add_right _ _) hshort⟩, ⟨between, hleads⟩, hhome⟩)

/-! ### Limits -/

/-- Whether a path cannot be looked up as it is too long, or has too many links on its way. -/
def BeyondLimits (t : FileTree) (cwd : Location) (p : Path) : Prop :=
  t.find cwd p = .error (.os .nameTooLong) ∨ t.find cwd p = .error (.os .tooManyLinks)

theorem find_of_tooLong (hnull : '\x00' ∉ p.chars) (hne : p.chars ≠ [])
    (hlong : pathLimit < byteCount p.chars) : t.find cwd p = .error (.os .nameTooLong) := by
  have hwalk : t.walk true cwd p = .error (.os .nameTooLong) := by
    unfold walk
    rw [if_neg (mt List.contains_iff_mem.1 hnull), if_neg (by simpa using hne), if_pos hlong]
  rw [find, hwalk]
  rfl

theorem find_of_walkFrom_error {fault : OsError} (hp : Speakable p)
    (h : t.walkFrom true linkLimit (linkStart cwd p) (Text.splitOn '/' p.chars) = .error fault) :
    t.find cwd p = .error (.os fault) := by
  obtain ⟨hnull, hne, hshort⟩ := hp
  have hwalk : t.walk true cwd p = .error (.os fault) := by
    unfold walk
    rw [if_neg (mt List.contains_iff_mem.1 hnull), if_neg (by simpa using hne),
      if_neg (Nat.not_lt.2 hshort), ← linkStart, h]
    rfl
  rw [find, hwalk]
  rfl

end FileTree

namespace Staging

open FileTree

variable {t : FileTree} {cwd home l l' : Location} {p : Path} {content content' : Bytes}
  {runnable runnable' : Bool} {name : List Char} {e : String}

/-- An absolute entry leads to the same place from everywhere. -/
theorem find_entryPath_of_isAbsolute (h : (Path.ofString e).isAbsolute = true) :
    t.find cwd (entryPath p e) = t.find home (.ofString e) := by
  have hpath : entryPath p e = .ofString e := Path.join_of_isAbsolute h
  have hwalk : t.walk true cwd (.ofString e) = t.walk true home (.ofString e) := by
    unfold walk
    rw [if_pos h, if_pos h]
  rw [hpath, find, find, hwalk]

/-- What an entry of a configuration leads to, it leads to from the directory of that one. -/
theorem find_home_of_entryPath (hhome : t.IsHome cwd p home) (hname : p.fileName? = some name)
    (h : t.find cwd (entryPath p e) = .ok (l', .file content runnable)) :
    t.find home (.ofString e) = .ok (l', .file content runnable) := by
  cases hrelative : (Path.ofString e).isAbsolute with
  | true => rw [← find_entryPath_of_isAbsolute hrelative, h]
  | false =>
      obtain ⟨front, hfront, hsplit, hstart⟩ := exists_splitOn_entryPath cwd hname hrelative
      obtain ⟨hspeakable, ⟨left, hleads⟩, hget⟩ := find_eq_ok_iff.1 h
      rw [hsplit, hstart] at hleads
      obtain ⟨between, y, hway, hentry⟩ := hleads.of_append
      have hy := hentry.isDirectory (Text.splitOn_ne_nil '/' _)
      obtain ⟨left', hway'⟩ := hhome.exists_leads hname hfront
      obtain rfl := hway'.directory_unique hway hhome.directory hy
      have hne : (Path.ofString e).chars ≠ [] := by
        intro hnil
        -- an empty entry leads to the directory itself
        have hlast := hentry.isIdle_getLast (by rw [hget]; simp) (Text.splitOn_ne_nil '/' _)
        simp only [hnil] at hlast
        cases hlast
      have hmore := hentry.more (linkLimit - between)
      rw [Nat.add_sub_cancel' hway.left_le] at hmore
      have hstart' : linkStart home (.ofString e) = home := by
        rw [linkStart, hrelative, if_neg Bool.false_ne_true]
      exact find_eq_ok_iff.2 ⟨speakable_of_entryPath hspeakable hne, ⟨_, hstart' ▸ hmore⟩, hget⟩

/-- What an entry leads to from the directory of its configuration, it leads to, within the limits. -/
theorem find_entryPath_of_home (hhome : t.IsHome cwd p home) (hp : Speakable p)
    (hname : p.fileName? = some name) (hwithin : ¬ t.BeyondLimits cwd (entryPath p e))
    (h : t.find home (.ofString e) = .ok (l', .file content runnable)) :
    t.find cwd (entryPath p e) = .ok (l', .file content runnable) := by
  cases hrelative : (Path.ofString e).isAbsolute with
  | true => rw [find_entryPath_of_isAbsolute hrelative, h]
  | false =>
      obtain ⟨front, hfront, hsplit, hstart⟩ := exists_splitOn_entryPath cwd hname hrelative
      obtain ⟨hspeakable, ⟨left, hleads⟩, hget⟩ := find_eq_ok_iff.1 h
      rw [linkStart, hrelative, if_neg Bool.false_ne_true] at hleads
      obtain ⟨between, hway⟩ := hhome.exists_leads hname hfront
      obtain ⟨hnull, hne⟩ := spellable_entryPath hp hname hspeakable
      rcases Nat.lt_or_ge pathLimit (byteCount (entryPath p e).chars) with hlong | hshort
      · exact absurd (.inl (find_of_tooLong hnull hne hlong)) hwithin
      · -- the way to the directory has left so many links for the entry
        rcases hleads.fewer hway.left_le with ⟨left', hrest⟩ | hmany
        · refine find_eq_ok_iff.2 ⟨⟨hnull, hne, hshort⟩, ⟨left', ?_⟩, hget⟩
          rw [hsplit, hstart]
          exact hway.append hrest
        · refine absurd (.inr (find_of_walkFrom_error ⟨hnull, hne, hshort⟩ ?_)) hwithin
          rw [hsplit, hstart, hway.walkFrom_append (Text.splitOn_ne_nil '/' _), hmany]

/-- **An entry leads to a file if it does from the directory of its configuration, within the
limits.** -/
theorem isFile_entryPath_iff (hhome : t.IsHome cwd p home)
    (hfind : t.find cwd p = .ok (l, .file content runnable)) (hname : p.fileName? = some name) :
    t.isFile cwd (entryPath p e) = true ↔
      t.isFile home (.ofString e) = true ∧ ¬ t.BeyondLimits cwd (entryPath p e) := by
  constructor
  · intro h
    obtain ⟨l', content', runnable', hentry⟩ := exists_find_of_isFile h
    refine ⟨isFile_of_find (find_home_of_entryPath hhome hname hentry), ?_⟩
    rintro (hbeyond | hbeyond) <;> cases hentry.symm.trans hbeyond
  · rintro ⟨h, hwithin⟩
    obtain ⟨l', content', runnable', hentry⟩ := exists_find_of_isFile h
    exact isFile_of_find
      (find_entryPath_of_home hhome (find_eq_ok_iff.1 hfind).1 hname hwithin hentry)

end Staging

end StandardsGate
