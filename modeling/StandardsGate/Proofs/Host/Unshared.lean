import StandardsGate.Proofs.Host.Failing

/-!
Temporary files that are not shared.

A temporary file stands beside its target, under a name of its own. So the paths of two temporary
files are told apart by the directory, the name of the target, the process and the write, and so are the
entries that these paths lead to, however the directories are spelled and whatever has happened to the
tree in between. A write changes nothing under the names of other temporary files, and neither does any
step of it, if many writes are going on at once.

Main definitions:

* `FileTree.Spells` — whether a path spells the entry at a location;
* `FileTree.Unlinked` — whether a path leads to no link;
* `FileTree.EditedUnder` — trees that differ under the names of a temporary file and of its target;
* `Racing.AreApart` — writers with temporary files of their own.

Main results:

* `Path.same_join_iff` — when two paths that end in names are the same;
* `FileTree.exists_concat_of_spells` — what a path spells that ends in a name;
* `editedUnder_of_writeAtomicallyWith` — **under which names a write changes something**;
* `temporaryPath_unshared` — **two writes do not share a temporary file**;
* `Racing.get?_run_append` — **a temporary file changes in the turns of its own writer only**.
-/

namespace StandardsGate

open FileTree

variable {t t' t'' : FileTree} {cwd l : Location} {p parent parent' target : Path}
  {tmp n n' : List Char} {content : Bytes}

/-! ### Paths -/

/-- A target that has a name has a temporary path. -/
theorem exists_temporaryPath (hn : target.fileName? = some n) (process write : Nat) :
    ∃ parent, target.parent? = some parent ∧
      temporaryPath target process write = .ok (parent.join ⟨temporaryName n process write⟩) := by
  obtain ⟨parent, hparent, -⟩ := Path.exists_parent hn
  exact ⟨parent, hparent, by rw [temporaryPath, hn, hparent]; rfl⟩

/-- Paths that end in names are the same if the names and what is in front of them are. -/
theorem Path.same_join_iff (hn : IsPlainName n) (hn' : IsPlainName n') :
    (parent.join ⟨n⟩).same (parent'.join ⟨n'⟩) = true ↔
      parent.components = parent'.components ∧ n = n' := by
  rw [same, beq_iff_eq, components_join hn, components_join hn', ← List.concat_eq_append,
    ← List.concat_eq_append, List.concat_inj]
  simp

namespace FileTree

/-! ### Entries -/

/-- Whether a path spells the entry at a location. A link that stands there is not followed. -/
def Spells (t : FileTree) (cwd : Location) (p : Path) (l : Location) : Prop :=
  (t.walk false cwd p).toOption.map Place.location = some l

instance decidableSpells (t : FileTree) (cwd : Location) (p : Path) (l : Location) :
    Decidable (t.Spells cwd p l) :=
  inferInstanceAs (Decidable (_ = _))

theorem spells_iff :
    t.Spells cwd p l ↔ ∃ place, t.walk false cwd p = .ok place ∧ place.location = l := by
  unfold Spells
  cases t.walk false cwd p <;> simp [Except.toOption]

/-- **What a path spells that ends in a name** is an entry of that name. -/
theorem exists_concat_of_spells {front : List (List Char)} (hn : Path.IsEntryName n)
    (hsplit : Text.splitOn '/' p.chars = front ++ [n]) (h : t.Spells cwd p l) :
    ∃ dir, l = dir ++ [n] := by
  obtain ⟨place, hwalk, rfl⟩ := spells_iff.1 h
  obtain ⟨-, hwalk⟩ := walk_eq_ok_iff.1 hwalk
  rw [hsplit] at hwalk
  obtain ⟨left, dir, hleads, hdir⟩ := exists_leads_of_walkFrom hn hwalk
  refine ⟨dir, ?_⟩
  rw [hleads.walkFrom_append (by simp)] at hwalk
  have hshort : byteCount n ≤ nameLimit := by
    by_contra hlong
    rw [walkFrom_of_tooLong hdir hn (Nat.lt_of_not_le hlong)] at hwalk
    cases hwalk
  by_cases hany : ∃ target, t.get? (dir ++ [n]) = some (.link target)
  · obtain ⟨target, he⟩ := hany
    rw [walkFrom_of_last_link hdir hn hshort he] at hwalk
    rw [← Except.ok.inj hwalk]
    rfl
  · rw [walkFrom_last hdir hn hshort (any_isLink_eq_false (not_exists.1 hany))] at hwalk
    rw [← Except.ok.inj hwalk, location_placeAt]

theorem exists_concat_of_spells_join (hn : Path.IsPlainName n)
    (h : t.Spells cwd (parent.join ⟨n⟩) l) : ∃ dir, l = dir ++ [n] := by
  obtain ⟨front, -, hsplit⟩ := Path.exists_splitOn_join parent
  have hfront := hsplit _ hn.isAbsolute
  rw [hn.splitOn] at hfront
  exact exists_concat_of_spells hn.1 hfront h

/-- Whether a path leads to no link. -/
def Unlinked (t : FileTree) (cwd : Location) (p : Path) : Prop :=
  ∀ l target, t.walk false cwd p ≠ .ok (.taken l (.link target))

/-- Where no link has the name that a path ends in, the path leads to none. -/
theorem unlinked_join (hn : Path.IsPlainName n)
    (h : ∀ dir target, t.get? (dir ++ [n]) ≠ some (.link target)) (cwd : Location) (parent : Path) :
    t.Unlinked cwd (parent.join ⟨n⟩) := by
  intro l target hwalk
  obtain ⟨dir, rfl⟩ := exists_concat_of_spells_join hn (spells_iff.2 ⟨_, hwalk, rfl⟩)
  exact h dir target (get?_of_walk_taken hwalk)

/-- A path that leads to no link goes through a directory that has no link of its name. -/
theorem Unlinked.exists_find (hlink : t.Unlinked cwd (parent.join ⟨n⟩)) (hn : Path.IsPlainName n)
    {place : Place} (h : t.walk true cwd (parent.join ⟨n⟩) = .ok place) :
    ∃ dir, t.find cwd (parent.join ⟨['.']⟩) = .ok (dir, .directory) ∧
      ∀ target, t.get? (dir ++ [n]) ≠ some (.link target) := by
  obtain ⟨dir, hdir⟩ := exists_find_of_walk hn h
  refine ⟨dir, hdir, fun target he => hlink (dir ++ [n]) target ?_⟩
  have hbeside : Beside parent n (parent.join ⟨n⟩) := beside_join rfl rfl hn
  have hfits := pathFault?_of_walk hdir hbeside hn h
  rw [walk_of_fits false hdir hbeside hn hfits (by simp), placeAt, he]

/-! ### Changes under two names -/

/-- Whether a tree is another one, but under the name of a temporary file and that of its target. No
link has come under the name of the temporary file. -/
structure EditedUnder (tmp n : List Char) (t t' : FileTree) : Prop where
  others : ∀ dir m, m ≠ tmp → m ≠ n → t'.get? (dir ++ [m]) = t.get? (dir ++ [m])
  links : ∀ dir target, t'.get? (dir ++ [tmp]) = some (.link target) →
    t.get? (dir ++ [tmp]) = some (.link target)

theorem EditedUnder.refl (tmp n : List Char) (t : FileTree) : EditedUnder tmp n t t :=
  ⟨fun _ _ _ _ => rfl, fun _ _ h => h⟩

theorem EditedUnder.trans (h : EditedUnder tmp n t t') (h' : EditedUnder tmp n t' t'') :
    EditedUnder tmp n t t'' where
  others dir m htmp hn := (h'.others dir m htmp hn).trans (h.others dir m htmp hn)
  links dir target hl := h.links dir target (h'.links dir target hl)

theorem concat_ne_concat {m : List Char} (hm : m ≠ n) (dir dir' : Location) :
    dir ++ [m] ≠ dir' ++ [n] :=
  fun heq => hm (List.append_singleton_inj.1 heq).2

theorem editedUnder_put_file (t : FileTree) (dir : Location) (content : Bytes) (runnable : Bool) :
    EditedUnder tmp n t (t.put (dir ++ [tmp]) (.file content runnable)) where
  others dir' m htmp _ := by rw [get?_put (by simp), if_neg (concat_ne_concat htmp dir' dir)]
  links dir' target hl := by
    rw [get?_put (by simp)] at hl
    split at hl
    · cases hl
    · exact hl

theorem editedUnder_erase (t : FileTree) (dir : Location) :
    EditedUnder tmp n t (t.erase (dir ++ [tmp])) where
  others dir' m htmp _ := by rw [get?_erase (by simp), if_neg (concat_ne_concat htmp dir' dir)]
  links dir' target hl := get?_erase_eq_some hl

theorem editedUnder_put_target (hne : tmp ≠ n) (t : FileTree) (dir : Location) (e : Entry) :
    EditedUnder tmp n t (t.put (dir ++ [n]) e) where
  others dir' m _ hn := by rw [get?_put (by simp), if_neg (concat_ne_concat hn dir' dir)]
  links dir' target hl := by
    rwa [get?_put (by simp), if_neg (concat_ne_concat hne dir' dir)] at hl

/-! ### File operations -/

section Operations

variable (htmp : Path.IsPlainName tmp)
include htmp

/-- A file is created under its name, if its path leads to no link, and then still leads to none. -/
theorem editedUnder_of_create (hlink : t.Unlinked cwd (parent.join ⟨tmp⟩))
    (h : t.create cwd (parent.join ⟨tmp⟩) content = .ok t') :
    EditedUnder tmp n t t' ∧ t'.Unlinked cwd (parent.join ⟨tmp⟩) := by
  have hbeside : Beside parent tmp (parent.join ⟨tmp⟩) := beside_join rfl rfl htmp
  obtain ⟨_, _, hwalk, -⟩ := create_eq_ok h
  obtain ⟨dir, hdir, hplain⟩ := hlink.exists_find htmp hwalk
  have hways := SameWaysBut.refl (dir ++ [tmp]) t
  obtain ⟨hget, runnable, rfl⟩ := create_of_sameWaysBut hdir hways hbeside htmp hplain h
  refine ⟨editedUnder_put_file t dir content runnable, fun l target hfound => ?_⟩
  have hplace := walk_of_sameWaysBut hdir (hways.put hget (.inl rfl) content runnable) hbeside htmp
    (by simp) hfound
  rw [placeAt, get?_put (by simp), if_pos rfl] at hplace
  cases hplace

theorem editedUnder_of_append (hlink : t.Unlinked cwd (parent.join ⟨tmp⟩))
    (h : t.append cwd (parent.join ⟨tmp⟩) content = .ok t') : EditedUnder tmp n t t' := by
  obtain ⟨-, place, runnable, hwalk, -, -, rfl⟩ := append_eq_ok h
  obtain ⟨dir, hdir, hplain⟩ := hlink.exists_find htmp hwalk
  rw [walk_of_sameWaysBut hdir (.refl dir t) (beside_join rfl rfl htmp) htmp (fun _ => hplain) hwalk,
    location_placeAt]
  exact editedUnder_put_file t dir _ runnable

/-- What is taken away stood under its name. -/
theorem editedUnder_remove (t : FileTree) (cwd : Location) (parent : Path) :
    EditedUnder tmp n t (t.remove cwd (parent.join ⟨tmp⟩)) := by
  unfold remove
  split
  · exact .refl tmp n t
  · rename_i l e _ hwalk
    obtain ⟨dir, rfl⟩ := exists_concat_of_spells_join htmp (spells_iff.2 ⟨_, hwalk, rfl⟩)
    exact editedUnder_erase t dir
  · exact .refl tmp n t

/-- What is renamed stood under its old name, and stands under the new one. -/
theorem editedUnder_of_rename (hn : target.fileName? = some n) (hne : tmp ≠ n)
    (h : t.rename cwd (parent.join ⟨tmp⟩) target = .ok t') : EditedUnder tmp n t t' := by
  obtain ⟨l, e, place, hsource, htarget, -, rfl⟩ := rename_eq_ok h
  obtain ⟨dir, rfl⟩ := exists_concat_of_spells_join htmp (spells_iff.2 ⟨_, hsource, rfl⟩)
  obtain ⟨above, habove, -⟩ := Path.exists_parent hn
  obtain ⟨-, front, hsplit, -⟩ := beside_of_rename h hn habove
  obtain ⟨dir', hplace⟩ := exists_concat_of_spells (Path.isPlainName_of_fileName? hn).1 hsplit
    (spells_iff.2 ⟨_, htarget, rfl⟩)
  rw [hplace, if_neg (concat_ne_concat hne dir dir')]
  exact (editedUnder_erase t dir).trans (editedUnder_put_target hne _ dir' e)

end Operations

end FileTree

/-! ### Writes -/

variable {faults : WriteFaults} {h h' : Host} {made result : Except IoError Unit}

/-- Writing the temporary file changes something under its name only. -/
theorem editedUnder_writeTemporary (htmp : Path.IsPlainName tmp)
    (hlink : t.Unlinked cwd (parent.join ⟨tmp⟩)) (faults : WriteFaults) (content : Bytes) :
    EditedUnder tmp n t (writeTemporary faults t cwd (parent.join ⟨tmp⟩) content).1 := by
  unfold writeTemporary
  split
  · exact .refl tmp n t
  · rename_i created hcreated
    obtain ⟨hfirst, hlink'⟩ :=
      editedUnder_of_create htmp hlink (WriteFaults.guard_eq_ok hcreated)
    split
    · exact hfirst
    · rename_i written hwritten
      exact hfirst.trans (editedUnder_of_create htmp hlink' (WriteFaults.guard_eq_ok hwritten)).1

-- A link under the name of a temporary file can lead to another temporary file, which gets the content
-- then. So `Unlinked` cannot be left out.
example :
    (writeTemporary (fun _ => none)
      ((FileTree.empty.put [temporaryName ['f'] 1 1] (.file [7] false)).put [temporaryName ['f'] 1 0]
        (.link ⟨temporaryName ['f'] 1 1⟩)) [] ⟨temporaryName ['f'] 1 0⟩ [2]).1.get?
      [temporaryName ['f'] 1 1] = some (.file [2] false) := by
  decide +kernel

/-- **Under which names a write changes something**, once the directory of its target is there. -/
theorem editedUnder_of_writeAtomicallyWith (hn : target.fileName? = some n)
    (hmade : ensureParent faults h.files h.directory target = (t, made))
    (hlink : ∀ temporary, temporaryPath target h.processId h.writes = .ok temporary →
      t.Unlinked h.directory temporary)
    (hrun : writeAtomicallyWith faults h target content = (result, h')) :
    EditedUnder (temporaryName n h.processId h.writes) n t h'.files := by
  have htmp := isPlainName_temporaryName (Path.isPlainName_of_fileName? hn) h.processId h.writes
  have hne := (ne_temporaryName n h.processId h.writes).symm
  obtain ⟨parent, -, hpath⟩ := exists_temporaryPath hn h.processId h.writes
  rcases exists_of_writeAtomicallyWith hmade hrun with
    ⟨-, hfiles⟩ | ⟨temporary, u, written, htemporary, hwrite, hend⟩
  · rw [hfiles]
    exact .refl _ n t
  · obtain rfl := Except.ok.inj (htemporary.symm.trans hpath)
    have hu := editedUnder_writeTemporary (n := n) htmp (hlink _ hpath) faults content
    rw [hwrite] at hu
    rcases hend with ⟨-, hfiles⟩ | ⟨-, -, hrename⟩
    · rw [hfiles]
      exact hu.trans (editedUnder_remove htmp u h.directory parent)
    · exact hu.trans (editedUnder_of_rename htmp hn hne hrename)

/-- **Temporary files are not shared.** For every target that has a name, every process and every write
there is a temporary path, and it is not the path of the target. Two of these paths are the same exactly
if directory, name, process and write are. At whatever moments and from wherever they are looked up,
they spell the same entry exactly if it is in the same directory and name, process and write are the
same. And a write leaves alone what stands under the name of another temporary file, in any directory,
unless this is the target that it was given, or a link stands where its own temporary file goes. -/
theorem temporaryPath_unshared {target' : Path} (hn : target.fileName? = some n)
    (hn' : target'.fileName? = some n') (process process' write write' : Nat) :
    ∃ temporary temporary',
      temporaryPath target process write = .ok temporary ∧
      temporaryPath target' process' write' = .ok temporary' ∧
      temporary.same target = false ∧
      (temporary.same temporary' = true ↔
        target.parent?.map Path.components = target'.parent?.map Path.components ∧
          n = n' ∧ process = process' ∧ write = write') ∧
      (∀ (t t' : FileTree) (cwd cwd' l l' : Location),
        t.Spells cwd temporary l → t'.Spells cwd' temporary' l' →
          (l = l' ↔ l.dropLast = l'.dropLast ∧ n = n' ∧ process = process' ∧ write = write')) ∧
      ((n, process, write) ≠ (n', process', write') → n ≠ temporaryName n' process' write' →
        ∀ faults h content t made result h', h.processId = process → h.writes = write →
          ensureParent faults h.files h.directory target = (t, made) →
          t.Unlinked h.directory temporary →
          writeAtomicallyWith faults h target content = (result, h') →
          ∀ dir e, h.files.get? (dir ++ [temporaryName n' process' write']) = some e →
            h'.files.get? (dir ++ [temporaryName n' process' write']) = some e) := by
  have htmp := isPlainName_temporaryName (Path.isPlainName_of_fileName? hn) process write
  have htmp' := isPlainName_temporaryName (Path.isPlainName_of_fileName? hn') process' write'
  obtain ⟨parent, hparent, hpath⟩ := exists_temporaryPath hn process write
  obtain ⟨parent', hparent', hpath'⟩ := exists_temporaryPath hn' process' write'
  refine ⟨_, _, hpath, hpath', ?_, ?_, ?_, ?_⟩
  · rw [← Bool.not_eq_true, Path.same, beq_iff_eq, Path.components_join htmp,
      Path.components_parent? hn hparent]
    simp [(ne_temporaryName n process write).symm]
  · rw [Path.same_join_iff htmp htmp', temporaryName_inj, hparent, hparent']
    simp
  · intro t t' cwd cwd' l l' hl hl'
    obtain ⟨dir, rfl⟩ := exists_concat_of_spells_join htmp hl
    obtain ⟨dir', rfl⟩ := exists_concat_of_spells_join htmp' hl'
    rw [List.append_singleton_inj, temporaryName_inj, List.dropLast_concat, List.dropLast_concat]
  · rintro hne hnot faults h content t made result h' rfl rfl hmade hlink hrun dir e he
    have hedited := editedUnder_of_writeAtomicallyWith hn hmade (fun temporary htemporary => by
      obtain rfl := Except.ok.inj (htemporary.symm.trans hpath)
      exact hlink) hrun
    have hother : temporaryName n' process' write' ≠ temporaryName n h.processId h.writes := by
      rw [Ne, temporaryName_inj]
      rintro ⟨rfl, rfl, rfl⟩
      exact hne rfl
    rw [hedited.others dir _ hother hnot.symm]
    -- a directory may have come, but not where something stood
    rcases addsDirectories_of_ensureParent hmade (dir ++ [temporaryName n' process' write']) with
      hsame | ⟨hnone, -⟩
    · rw [hsame, he]
    · rw [he] at hnone
      cases hnone

section Dotted

/-- A file in a directory, and beside it the temporary file of a write to another one. -/
def besideTree : FileTree :=
  keptTree.put [['d'], temporaryName ['f', '.', '1'] 0 2] (.file [7] false)

theorem besideTree_evaluated :
    (Path.fileName? "d/f" = some ['f'] ∧ Path.fileName? "d/f.1" = some ['f', '.', '1'] ∧
      Path.parent? "d/f" = some "d" ∧
      (temporaryPath "d/f" 1 0).toOption = some "d/.f.1.0.tmp" ∧
      (temporaryPath "d/f.1" 0 2).toOption = some "d/.f.1.0.2.tmp") ∧
    besideTree.Spells [] "d/.f.1.0.tmp" [['d'], temporaryName ['f'] 1 0] ∧
    besideTree.Spells [] "d/.f.1.0.2.tmp" [['d'], temporaryName ['f', '.', '1'] 0 2] ∧
    besideTree.exists? [] "d" = true ∧ (∀ e ∈ besideTree.entries.entries, e.2.isLink = false) ∧
    besideTree.get? [['d'], temporaryName ['f', '.', '1'] 0 2] = some (.file [7] false) ∧
    (writeAtomically (writingHost besideTree) "d/f" [2]).1.toOption = some () := by
  decide +kernel

/-- Two writes whose temporary files have names that could be mistaken for each other if the numbers were
not told from the names. -/
theorem temporaryPath_unshared_dotted :
    temporaryPath "d/f" 1 0 = .ok "d/.f.1.0.tmp" ∧
    temporaryPath "d/f.1" 0 2 = .ok "d/.f.1.0.2.tmp" ∧
    Path.same "d/.f.1.0.tmp" "d/f" = false ∧
    Path.same "d/.f.1.0.tmp" "d/.f.1.0.2.tmp" ≠ true ∧
    ([['d'], temporaryName ['f'] 1 0] : Location) ≠ [['d'], temporaryName ['f', '.', '1'] 0 2] ∧
    ∃ h', writeAtomically (writingHost besideTree) "d/f" [2] = (.ok (), h') ∧
      h'.files.get? [['d'], temporaryName ['f', '.', '1'] 0 2] = some (.file [7] false) := by
  obtain ⟨⟨hn, hn', hparent, hpath, hpath'⟩, hspells, hspells', hexists, hlinks, hthere, hdone⟩ :=
    besideTree_evaluated
  obtain ⟨temporary, temporary', htemporary, htemporary', htarget, hsame, hentries, hkept⟩ :=
    temporaryPath_unshared hn hn' 1 0 0 2
  obtain rfl := Except.ok.inj (htemporary.symm.trans (eq_ok_of_toOption hpath))
  obtain rfl := Except.ok.inj (htemporary'.symm.trans (eq_ok_of_toOption hpath'))
  refine ⟨htemporary, htemporary', htarget, fun h => ?_, fun h => ?_, ?_⟩
  · cases (hsame.1 h).2.1
  · cases ((hentries _ _ _ _ _ _ hspells hspells').1 h).2.1
  · obtain ⟨h', hrun⟩ := exists_pair_of_toOption hdone
    have hmade : ensureParent (fun _ => none) (writingHost besideTree).files
        (writingHost besideTree).directory "d/f" = (besideTree, .ok ()) := by
      simp [ensureParent, writingHost, hparent, hexists]
    have hlink : besideTree.Unlinked [] "d/.f.1.0.tmp" := fun l target hwalk =>
      linkless_of_entries hlinks l target (get?_of_walk_taken hwalk)
    exact ⟨h', hrun, hkept (by decide) (by decide) _ _ _ _ _ _ _ rfl rfl hmade hlink hrun [['d']] _
      hthere⟩

end Dotted

/-! ### Many writes at once -/

namespace Racing

variable {w : Writer} {phase : Phase}

/-- Whether the temporary path that a phase holds is that of the writer. -/
def Writer.HoldsOwn (w : Writer) : Phase → Prop
  | .writing temporary _ | .synced temporary | .failing temporary =>
    temporaryPath w.target w.process w.write = .ok temporary
  | .ready | .renamed | .failed => True

/-- A file operation is done, or it fails and nothing is. -/
theorem attempt_cases (fault : Option IoError) (t : FileTree) (temporary : Path) (next : Phase)
    (done : Except IoError FileTree) :
    attempt fault t temporary next done = (.failing temporary, t) ∨
      ∃ t', done = .ok t' ∧ attempt fault t temporary next done = (next, t') := by
  cases fault with
  | some e => exact .inl rfl
  | none =>
      cases done with
      | error e => exact .inl rfl
      | ok t' => exact .inr ⟨t', rfl, rfl⟩

/-- An attempt changes something under two names only, if the file operation does. -/
theorem Writer.editedUnder_attempt {fault : Option IoError} {temporary : Path} {next : Phase}
    {done : Except IoError FileTree}
    (htemporary : temporaryPath w.target w.process w.write = .ok temporary)
    (hnext : w.HoldsOwn next) (hdone : ∀ t', done = .ok t' → EditedUnder tmp n t t') :
    EditedUnder tmp n t (attempt fault t temporary next done).2 ∧
      w.HoldsOwn (attempt fault t temporary next done).1 := by
  rcases attempt_cases fault t temporary next done with hfails | ⟨t', hok, hdoes⟩
  · rw [hfails]
    exact ⟨.refl tmp n t, htemporary⟩
  · rw [hdoes]
    exact ⟨hdone t' hok, hnext⟩

/-- **Under which names a step changes something.** -/
theorem Writer.editedUnder_step (hn : w.target.fileName? = some n) (hown : w.HoldsOwn phase)
    (hlink : ∀ dir target, t.get? (w.place dir n) ≠ some (.link target))
    (fault : Option IoError) :
    EditedUnder (temporaryName n w.process w.write) n t (w.step fault t phase).2 ∧
      w.HoldsOwn (w.step fault t phase).1 := by
  have htmp := isPlainName_temporaryName (Path.isPlainName_of_fileName? hn) w.process w.write
  have hne := (ne_temporaryName n w.process w.write).symm
  obtain ⟨parent, -, hpath⟩ := exists_temporaryPath hn w.process w.write
  have hplain := unlinked_join htmp hlink w.directory parent
  cases phase with
  | renamed | failed => exact ⟨.refl _ n t, trivial⟩
  | ready =>
      rw [step_ready fault t hpath]
      exact editedUnder_attempt hpath hpath fun t' hcreate =>
        (editedUnder_of_create htmp hplain hcreate).1
  | writing temporary left =>
      obtain rfl := Except.ok.inj (hpath.symm.trans hown)
      cases left with
      | nil => exact editedUnder_attempt hpath hpath fun t' hsync => by cases hsync; exact .refl _ n t
      | cons piece left =>
          exact editedUnder_attempt hpath hpath fun t' happend =>
            editedUnder_of_append htmp hplain happend
  | synced temporary =>
      obtain rfl := Except.ok.inj (hpath.symm.trans hown)
      exact editedUnder_attempt hpath trivial fun t' hrename =>
        editedUnder_of_rename htmp hn hne hrename
  | failing temporary =>
      obtain rfl := Except.ok.inj (hpath.symm.trans hown)
      exact ⟨editedUnder_remove htmp t w.directory parent, trivial⟩

section Run

variable {ι : Type} {w : ι → Writer} {n : ι → List Char} {t : FileTree} {s : State ι}

/-- Whether writers, of targets of these names, have temporary files of their own: they differ in name,
process or write, and neither a target nor a link has the name of a temporary file. -/
structure AreApart (w : ι → Writer) (n : ι → List Char) (t : FileTree) : Prop where
  name : ∀ i, (w i).target.fileName? = some (n i)
  distinct : ∀ i j, n i = n j → (w i).process = (w j).process → (w i).write = (w j).write → i = j
  target : ∀ i j, temporaryName (n j) (w j).process (w j).write ≠ n i
  unlinked : ∀ i dir target, t.get? ((w i).place dir (n i)) ≠ some (.link target)

/-- What holds of a state at every moment: writers hold their own temporary paths, and no link has the
name of a temporary file. -/
structure Separate (w : ι → Writer) (n : ι → List Char) (s : State ι) : Prop where
  own : ∀ i, (w i).HoldsOwn (s.phase i)
  unlinked : ∀ i dir target, s.files.get? ((w i).place dir (n i)) ≠ some (.link target)

theorem AreApart.temporaryName_ne (h : AreApart w n t) {i j : ι} (hij : j ≠ i) :
    temporaryName (n j) (w j).process (w j).write ≠
      temporaryName (n i) (w i).process (w i).write := by
  intro heq
  obtain ⟨hn, hprocess, hwrite⟩ := temporaryName_inj.1 heq
  exact hij (h.distinct j i hn hprocess hwrite)

variable [DecidableEq ι]

/-- **What every turn does**: it leaves what stands under the names of the temporary files of others. -/
theorem Separate.turn (hs : Separate w n s) (h : AreApart w n t) (i : ι) (fault : Option IoError) :
    Separate w n (s.turn w i fault) ∧ ∀ j ≠ i, ∀ dir,
      (s.turn w i fault).files.get? ((w j).place dir (n j)) =
        s.files.get? ((w j).place dir (n j)) := by
  obtain ⟨hedited, hown⟩ :=
    Writer.editedUnder_step (h.name i) (hs.own i) (hs.unlinked i) fault
  have hothers : ∀ j ≠ i, ∀ dir, (s.turn w i fault).files.get? ((w j).place dir (n j)) =
      s.files.get? ((w j).place dir (n j)) :=
    fun j hj dir => hedited.others dir _ (h.temporaryName_ne hj) (h.target i j)
  refine ⟨⟨fun j => ?_, fun j dir target hl => ?_⟩, hothers⟩
  · rw [State.turn]
    dsimp only
    by_cases hj : j = i
    · subst hj
      rwa [Function.update_self]
    · rw [Function.update_of_ne hj]
      exact hs.own j
  · by_cases hj : j = i
    · subst hj
      exact hs.unlinked j dir target (hedited.links dir target hl)
    · rw [hothers j hj dir] at hl
      exact hs.unlinked j dir target hl

theorem separate_run (h : AreApart w n t) (turns : List (ι × Option IoError)) :
    Separate w n (run w t turns) :=
  run_induct ⟨fun _ => trivial, h.unlinked⟩ (fun _ i fault hs => (hs.turn h i fault).1) turns

/-- **A temporary file changes in the turns of its own writer only**: whatever others do, in whatever
order and however they fail, what stands under its name stays, in every directory. -/
theorem get?_run_append (h : AreApart w n t) (turns more : List (ι × Option IoError)) {j : ι}
    (hmore : ∀ c ∈ more, c.1 ≠ j) (dir : Location) :
    (run w t (turns ++ more)).files.get? ((w j).place dir (n j)) =
      (run w t turns).files.get? ((w j).place dir (n j)) := by
  induction more generalizing turns with
  | nil => rw [List.append_nil]
  | cons c more ih =>
      obtain ⟨hc, hmore⟩ := List.forall_mem_cons.1 hmore
      have hturn : run w t (turns ++ [c]) = (run w t turns).turn w c.1 c.2 := by
        rw [run, List.foldl_concat]
        rfl
      rw [List.append_cons, ih (turns ++ [c]) hmore, hturn]
      exact ((separate_run h turns).turn h c.1 c.2).2 j hc.symm dir

end Run

end Racing

end StandardsGate
