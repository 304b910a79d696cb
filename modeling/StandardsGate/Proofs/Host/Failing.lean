import StandardsGate.Proofs.Host.Outcomes

/-!
Writes that fail.

Any step of a write may fail: creating the directory of the target, choosing the name of the temporary
file, creating, writing or synchronizing that file, and renaming it. A write that fails leaves nothing
behind but directories on the way to its target. A write that succeeds changes the target, and nothing
else.

Main definitions:

* `FileTree.AddsDirectories` — trees of which the second has some more directories;
* `LacksTemporary` — whether no file stands under the name of the temporary file.

Main results:

* `FileTree.addsDirectories_makeDirectories` — what creating directories does to a tree;
* `writeTemporary_cases` — how far the temporary file gets;
* `exists_of_writeAtomicallyWith` — how a write ends;
* `writeAtomicallyWith_traceless` — **a failed write leaves no trace, and one that succeeds changes the
  target only**.
-/

namespace StandardsGate

namespace FileTree

variable {t t' t'' : FileTree} {cwd l : Location} {p : Path}

/-! ### More directories -/

/-- Whether a tree is another one with some more directories. -/
def AddsDirectories (t t' : FileTree) : Prop :=
  ∀ l, t'.get? l = t.get? l ∨ t.get? l = none ∧ t'.get? l = some .directory

theorem AddsDirectories.refl (t : FileTree) : AddsDirectories t t := fun _ => .inl rfl

theorem AddsDirectories.trans (h : AddsDirectories t t') (h' : AddsDirectories t' t'') :
    AddsDirectories t t'' := by
  intro l
  rcases h' l with hsame | ⟨hnone, hdir⟩
  · rw [hsame]
    exact h l
  · rcases h l with hbefore | ⟨-, hbefore⟩
    · exact .inr ⟨hbefore ▸ hnone, hdir⟩
    · rw [hbefore] at hnone
      cases hnone

theorem addsDirectories_of_makeDirectory (h : t.makeDirectory cwd p = .ok t') :
    AddsDirectories t t' := by
  obtain ⟨x, hwalk, rfl⟩ := makeDirectory_eq_ok h
  have hnone := get?_of_walk_free hwalk
  have hx : x ≠ [] := ne_nil_of_ne_directory (t := t) (by simp [hnone])
  intro l
  rw [get?_put hx]
  by_cases hl : l = x
  · exact .inr ⟨hl ▸ hnone, if_pos hl⟩
  · exact .inl (if_neg hl)

theorem addsDirectories_of_ensureDirectory (h : t.ensureDirectory cwd p = .ok t') :
    AddsDirectories t t' := by
  unfold ensureDirectory at h
  split at h
  · rename_i hmake
    cases h
    exact addsDirectories_of_makeDirectory hmake
  · split at h <;> cases h
    exact .refl t

/-- **Creating directories adds directories**, also if not all of them can be created. -/
theorem addsDirectories_makeDirectories (t : FileTree) (cwd : Location) (p : Path) :
    AddsDirectories t (t.makeDirectories cwd p).1 := by
  fun_induction makeDirectories t cwd p with
  | case1 => exact .refl t
  | case2 p _ t' hmake => exact addsDirectories_of_makeDirectory hmake
  | case3 => exact .refl t
  | case4 p _ _ q _ t' e hq ih => rw [hq] at ih; exact ih
  | case5 p _ _ q _ t' hq t'' hp ih =>
      rw [hq] at ih
      exact ih.trans (addsDirectories_of_ensureDirectory hp)
  | case6 p _ _ q _ t' hq e hp ih => rw [hq] at ih; exact ih
  | case7 => exact .refl t

end FileTree

open FileTree

variable {faults : WriteFaults} {h h' : Host} {t u : FileTree} {cwd dir : Location}
  {target parent temporary : Path} {tmp name : List Char} {content : Bytes}
  {made written result : Except IoError Unit}

theorem addsDirectories_of_ensureParent (h : ensureParent faults t cwd target = (u, made)) :
    AddsDirectories t u := by
  unfold ensureParent at h
  split at h
  · cases h
    exact .refl t
  · split at h
    · cases h
      exact .refl t
    · split at h
      · cases h
        exact .refl t
      · rename_i parent _ _ _ _
        have hfiles : (t.makeDirectories cwd parent).1 = u := congrArg Prod.fst h
        rw [← hfiles]
        exact addsDirectories_makeDirectories t cwd parent

/-! ### The temporary file -/

theorem WriteFaults.guard_eq_ok {α : Type} {s : WriteStep} {done : Except IoError α} {a : α}
    (h : faults.guard s done = .ok a) : done = .ok a := by
  unfold WriteFaults.guard at h
  split at h
  · cases h
  · exact h

/-- Where a new file was created stood nothing before, if no file and no link stood there. -/
theorem FileTree.exists_of_create {created : FileTree} (htmp : Path.IsPlainName tmp)
    (hfree : ∀ l e, t.walk false cwd (parent.join ⟨tmp⟩) = .ok (.taken l e) → e = .directory)
    (hcreate : t.create cwd (parent.join ⟨tmp⟩) content = .ok created) :
    ∃ dir, t.find cwd (parent.join ⟨['.']⟩) = .ok (dir, .directory) ∧
      pathFault? (parent.join ⟨tmp⟩) tmp = none ∧ t.get? (dir ++ [tmp]) = none := by
  have hbeside : Beside parent tmp (parent.join ⟨tmp⟩) := beside_join rfl rfl htmp
  obtain ⟨place, _, hwalk, hover, -⟩ := create_eq_ok hcreate
  obtain ⟨dir, hdir⟩ := exists_find_of_walk htmp hwalk
  have hfits := pathFault?_of_walk hdir hbeside htmp hwalk
  refine ⟨dir, hdir, hfits, ?_⟩
  cases hget : t.get? (dir ++ [tmp]) with
  | none => rfl
  | some e =>
      have htaken := walk_of_fits false hdir hbeside htmp hfits (by simp)
      rw [placeAt, hget] at htaken
      obtain rfl := hfree _ _ htaken
      -- a directory would have kept the file from being created
      rw [walk_of_fits _ hdir hbeside htmp hfits (by simp [hget])] at hwalk
      obtain rfl := Except.ok.inj hwalk
      exact absurd (by rw [location_placeAt, hget]) hover

/-- **How far the temporary file gets**: it is not created, or it stands in the directory of the target,
with all of the content if nothing has failed. -/
theorem writeTemporary_cases (htmp : Path.IsPlainName tmp)
    (hfree : ∀ l e, t.walk false cwd (parent.join ⟨tmp⟩) = .ok (.taken l e) → e = .directory)
    (h : writeTemporary faults t cwd (parent.join ⟨tmp⟩) content = (u, written)) :
    (u = t ∧ ∃ e, written = .error e) ∨
      ∃ dir before, t.find cwd (parent.join ⟨['.']⟩) = .ok (dir, .directory) ∧
        pathFault? (parent.join ⟨tmp⟩) tmp = none ∧ t.get? (dir ++ [tmp]) = none ∧
        u = t.put (dir ++ [tmp]) (.file before false) ∧ (written = .ok () → before = content) := by
  have hbeside : Beside parent tmp (parent.join ⟨tmp⟩) := beside_join rfl rfl htmp
  unfold writeTemporary at h
  cases hcreated : faults.guard .create (t.create cwd (parent.join ⟨tmp⟩) []) with
  | error e =>
      rw [hcreated] at h
      cases h
      exact .inl ⟨rfl, e, rfl⟩
  | ok created =>
      rw [hcreated] at h
      dsimp only at h
      have hcreate := WriteFaults.guard_eq_ok hcreated
      obtain ⟨dir, hdir, hfits, hnone⟩ := exists_of_create htmp hfree hcreate
      rw [create_of_none hdir hbeside htmp hfits hnone, Except.ok.injEq] at hcreate
      subst hcreate
      have hplace : dir ++ [tmp] ≠ [] := by simp
      have hdir' : (t.put (dir ++ [tmp]) (.file [] false)).find cwd (parent.join ⟨['.']⟩) =
          .ok (dir, .directory) :=
        find_of_sameWays (sameWays_put hplace (by simp [hnone]) (by simp [hnone]) [] false) hdir
      have hfile : (t.put (dir ++ [tmp]) (.file [] false)).get? (dir ++ [tmp]) =
          some (.file [] false) := by rw [get?_put hplace, if_pos rfl]
      rw [create_of_some hdir' hbeside htmp hfits hfile, put_put] at h
      cases hwritten : faults.guard .write
          (.ok (t.put (dir ++ [tmp]) (.file content false)) : Except IoError FileTree) with
      | error e =>
          rw [hwritten] at h
          cases h
          exact .inr ⟨dir, [], hdir, hfits, hnone, rfl, nofun⟩
      | ok full =>
          rw [hwritten] at h
          obtain rfl := Except.ok.inj (WriteFaults.guard_eq_ok hwritten)
          cases h
          exact .inr ⟨dir, content, hdir, hfits, hnone, rfl, fun _ => rfl⟩

/-- A temporary file that was not finished is taken away. -/
theorem remove_of_writeTemporary (htmp : Path.IsPlainName tmp)
    (hfree : ∀ l e, t.walk false cwd (parent.join ⟨tmp⟩) = .ok (.taken l e) → e = .directory)
    (h : writeTemporary faults t cwd (parent.join ⟨tmp⟩) content = (u, written)) :
    u.remove cwd (parent.join ⟨tmp⟩) = t := by
  rcases writeTemporary_cases htmp hfree h with ⟨rfl, -⟩ | ⟨dir, before, hdir, hfits, hnone, rfl, -⟩
  · unfold remove
    split
    · rfl
    · rename_i l e hne hwalk
      exact absurd (hfree l e hwalk) (by rintro rfl; exact hne rfl)
    · rfl
  · have hplace : dir ++ [tmp] ≠ [] := by simp
    have hdir' := find_of_sameWays
      (sameWays_put hplace (by simp [hnone]) (by simp [hnone]) before false) hdir
    rw [remove_of_some hdir' (beside_join rfl rfl htmp) htmp hfits
      (by rw [get?_put hplace, if_pos rfl]), erase_put hplace hnone]

/-! ### How a write ends -/

/-- Whether no file and no link stands where the temporary file of a write goes. -/
def LacksTemporary (h : Host) (target : Path) (t : FileTree) : Prop :=
  ∀ temporary l e, temporaryPath target h.processId h.writes = .ok temporary →
    t.walk false h.directory temporary = .ok (.taken l e) → e = .directory

/-- **How a write ends**: before there is a temporary file, or with that file taken away, or with that
file in the place of the target. -/
theorem exists_of_writeAtomicallyWith
    (hmade : ensureParent faults h.files h.directory target = (t, made))
    (hrun : writeAtomicallyWith faults h target content = (result, h')) :
    ((∃ e, result = .error e) ∧ h'.files = t) ∨
      ∃ temporary u written, temporaryPath target h.processId h.writes = .ok temporary ∧
        writeTemporary faults t h.directory temporary content = (u, written) ∧
        ((∃ e, result = .error e) ∧ h'.files = u.remove h.directory temporary ∨
          result = .ok () ∧ written = .ok () ∧
            u.rename h.directory temporary target = .ok h'.files) := by
  unfold writeAtomicallyWith at hrun
  rw [hmade] at hrun
  dsimp only at hrun
  cases made with
  | error e =>
      cases hrun
      exact .inl ⟨⟨e, rfl⟩, rfl⟩
  | ok done =>
      cases hchosen : faults.guard .choose (temporaryPath target h.processId h.writes) with
      | error e =>
          rw [hchosen] at hrun
          cases hrun
          exact .inl ⟨⟨e, rfl⟩, rfl⟩
      | ok temporary =>
          rw [hchosen] at hrun
          dsimp only at hrun
          cases htmp : writeTemporary faults t h.directory temporary content with
          | mk u written =>
              rw [htmp] at hrun
              dsimp only at hrun
              refine .inr ⟨temporary, u, written, WriteFaults.guard_eq_ok hchosen, htmp, ?_⟩
              cases hend : written.bind fun _ =>
                  faults.guard .rename (u.rename h.directory temporary target) with
              | error e =>
                  rw [hend] at hrun
                  cases hrun
                  exact .inl ⟨⟨e, rfl⟩, rfl⟩
              | ok renamed =>
                  rw [hend] at hrun
                  cases hrun
                  obtain ⟨_, hwritten, hrenamed⟩ := exists_of_bind_eq_ok hend
                  exact .inr ⟨rfl, hwritten, WriteFaults.guard_eq_ok hrenamed⟩

/-! ### The target -/

/-- The path of the temporary file is made of the target's parent and name. -/
theorem exists_eq_join_of_temporaryPath {process write : Nat}
    (htemporary : temporaryPath target process write = .ok temporary) :
    ∃ name parent, target.fileName? = some name ∧ target.parent? = some parent ∧
      temporary = parent.join ⟨temporaryName name process write⟩ := by
  unfold temporaryPath at htemporary
  cases hname : target.fileName? with
  | none =>
      rw [hname] at htemporary
      cases htemporary
  | some name =>
      obtain ⟨parent, hparent, -⟩ := Path.exists_parent hname
      rw [hname, hparent] at htemporary
      exact ⟨name, parent, rfl, hparent, (Except.ok.inj htemporary).symm⟩

/-- No temporary file stands in the way if the directory of the target has none. -/
theorem lacksTemporary_of_get? {x : Location} (hname : target.fileName? = some name)
    (hparent : target.parent? = some parent)
    (hdir : t.find h.directory (parent.join ⟨['.']⟩) = .ok (dir, .directory))
    (hways : SameWaysBut x t u)
    (hnone : u.get? (dir ++ [temporaryName name h.processId h.writes]) = none) :
    LacksTemporary h target u := by
  intro temporary l e htemporary hwalk
  obtain ⟨name', parent', hname', hparent', rfl⟩ := exists_eq_join_of_temporaryPath htemporary
  obtain rfl := Option.some.inj (hname.symm.trans hname')
  obtain rfl := Option.some.inj (hparent.symm.trans hparent')
  have htmp := isPlainName_temporaryName (Path.isPlainName_of_fileName? hname) h.processId h.writes
  have hplace := walk_of_sameWaysBut hdir hways (beside_join rfl rfl htmp) htmp (by simp) hwalk
  rw [placeAt, hnone] at hplace
  cases hplace

/-- What the temporary file was renamed to can be looked up. -/
theorem FileTree.fits_of_rename {renamed : FileTree}
    (hdir : t.find cwd (parent.join ⟨['.']⟩) = .ok (dir, .directory))
    (hnone : t.get? (dir ++ [tmp]) = none) (htarget : Beside parent name target)
    (hname : Path.IsPlainName name)
    (hrename : (t.put (dir ++ [tmp]) (.file content false)).rename cwd temporary target =
      .ok renamed) : Speakable target ∧ byteCount name ≤ nameLimit := by
  obtain ⟨_, _, place, -, hwalk, -⟩ := rename_eq_ok hrename
  have hdir' := find_of_sameWays
    (sameWays_put (l := dir ++ [tmp]) (by simp) (by simp [hnone]) (by simp [hnone]) content false) hdir
  exact ⟨(walk_eq_ok_iff.1 hwalk).1, byteCount_le_of_walk hdir' htarget hname hwalk⟩

/-- A target that the temporary file was renamed to is a new file in the place of the target. -/
theorem FileTree.eq_put_of_rename {renamed : FileTree} (htmp : Path.IsPlainName tmp)
    (hname : target.fileName? = some name) (hparent : target.parent? = some parent)
    (hdir : t.find cwd (parent.join ⟨['.']⟩) = .ok (dir, .directory)) (hne : tmp ≠ name)
    (hnone : t.get? (dir ++ [tmp]) = none)
    (hrename : (t.put (dir ++ [tmp]) (.file content false)).rename cwd (parent.join ⟨tmp⟩) target =
      .ok renamed) :
    t.get? (dir ++ [name]) ≠ some .directory ∧
      renamed = t.put (dir ++ [name]) (.file content false) := by
  have hplace : dir ++ [tmp] ≠ [] := by simp
  have hways := (SameWaysBut.refl (dir ++ [name]) t).put (l := dir ++ [tmp]) (by simp [hnone])
    (.inr ⟨by simp [hnone], by simp [hnone]⟩) content false
  have hfile : (t.put (dir ++ [tmp]) (.file content false)).get? (dir ++ [tmp]) =
      some (.file content false) := by rw [get?_put hplace, if_pos rfl]
  obtain ⟨hover, rfl⟩ := rename_of_sameWaysBut hdir hways (beside_join rfl rfl htmp) htmp
    (beside_of_rename hrename hname hparent) (Path.isPlainName_of_fileName? hname) hne hfile hrename
  rw [get?_put hplace, if_neg (by simpa using Ne.symm hne)] at hover
  exact ⟨hover, by rw [erase_put hplace hnone]⟩

/-- **Where a file is found** that was put into a directory: by its path exactly if the directory is
still found, and in any case if the file has not replaced a link on the way there. -/
theorem FileTree.read_put_iff (hdir : t.find cwd (parent.join ⟨['.']⟩) = .ok (dir, .directory))
    (htarget : Beside parent name target) (hname : Path.IsPlainName name)
    (hfits : Speakable target ∧ byteCount name ≤ nameLimit)
    (hover : t.get? (dir ++ [name]) ≠ some .directory) (content : Bytes) :
    ((t.put (dir ++ [name]) (.file content false)).read cwd target = .ok content ↔
        (t.put (dir ++ [name]) (.file content false)).find cwd (parent.join ⟨['.']⟩) =
          .ok (dir, .directory)) ∧
      ((∀ link, t.get? (dir ++ [name]) = some (.link link) →
          dir ++ [name] ∉ t.trail cwd (parent.join ⟨['.']⟩)) →
        (t.put (dir ++ [name]) (.file content false)).read cwd target = .ok content) := by
  have hplace : dir ++ [name] ≠ [] := by simp
  have hways := (SameWaysBut.refl (dir ++ [name]) t).put hover (.inl rfl) content false
  have hfile : (t.put (dir ++ [name]) (.file content false)).get? (dir ++ [name]) =
      some (.file content false) := by rw [get?_put hplace, if_pos rfl]
  have hread : (t.put (dir ++ [name]) (.file content false)).find cwd (parent.join ⟨['.']⟩) =
      .ok (dir, .directory) →
      (t.put (dir ++ [name]) (.file content false)).read cwd target = .ok content := by
    intro hfound
    rw [FileTree.read, find_of_beside hfound htarget hname hfits.1 hfits.2 hfile rfl]
    rfl
  refine ⟨⟨fun hfound => ?_, hread⟩, fun hlink => hread ?_⟩
  · -- the path of the target goes on from that of its directory
    refine Classical.byContradiction fun hlost => ?_
    obtain ⟨l, runnable, hfind⟩ := exists_find_of_read hfound
    exact walk_ne_ok_of_lost hdir hways hlost htarget _ _ (find_eq_ok_iff_walk.1 hfind)
  · by_cases hany : ∃ link, t.get? (dir ++ [name]) = some (.link link)
    · obtain ⟨link, he⟩ := hany
      rw [find_congr fun x hx => ?_, hdir]
      rw [get?_put hplace, if_neg (by rintro rfl; exact hlink link he hx)]
    · exact find_of_sameWays (sameWays_put hplace hover (not_exists.1 hany) content false) hdir

/-- **A failed write leaves no trace, and one that succeeds changes the target only.** Whatever steps
fail, as long as no file and no link has the name of the temporary file: a write adds directories for
its target at most, it leaves no temporary file, and it changes no other file. If it fails, it changes
no file at all. If it succeeds, the content stands in the place of the target, and the path of the
target leads there exactly if it still leads to its directory, as it does unless the target has
replaced a link on the way there. -/
theorem writeAtomicallyWith_traceless
    (hmade : ensureParent faults h.files h.directory target = (t, made))
    (hfree : LacksTemporary h target t)
    (hrun : writeAtomicallyWith faults h target content = (result, h')) :
    AddsDirectories h.files t ∧ LacksTemporary h target h'.files ∧
      (∀ e, result = .error e → h'.files = t) ∧
      (result = .ok () → ∃ parent name dir,
        target.parent? = some parent ∧ target.fileName? = some name ∧
        t.find h.directory (parent.join ⟨['.']⟩) = .ok (dir, .directory) ∧
        t.get? (dir ++ [name]) ≠ some .directory ∧
        h'.files = t.put (dir ++ [name]) (.file content false) ∧
        (h'.files.read h.directory target = .ok content ↔
          h'.files.find h.directory (parent.join ⟨['.']⟩) = .ok (dir, .directory)) ∧
        ((∀ link, t.get? (dir ++ [name]) = some (.link link) →
            dir ++ [name] ∉ t.trail h.directory (parent.join ⟨['.']⟩)) →
          h'.files.read h.directory target = .ok content)) := by
  refine ⟨addsDirectories_of_ensureParent hmade, ?_⟩
  rcases exists_of_writeAtomicallyWith hmade hrun with ⟨⟨e, rfl⟩, hfiles⟩ |
    ⟨temporary, u, written, htemporary, hwrite, hend⟩
  · rw [hfiles]
    exact ⟨hfree, fun _ _ => rfl, nofun⟩
  · obtain ⟨name, parent, hname, hparent, rfl⟩ := exists_eq_join_of_temporaryPath htemporary
    have hplain := Path.isPlainName_of_fileName? hname
    have htmp := isPlainName_temporaryName hplain h.processId h.writes
    have hne := Ne.symm (ne_temporaryName name h.processId h.writes)
    have hlack : ∀ l e, t.walk false h.directory
        (parent.join ⟨temporaryName name h.processId h.writes⟩) = .ok (.taken l e) →
        e = .directory := fun l e => hfree _ l e htemporary
    rcases hend with ⟨⟨e, rfl⟩, hfiles⟩ | ⟨rfl, rfl, hrename⟩
    · rw [remove_of_writeTemporary htmp hlack hwrite] at hfiles
      rw [hfiles]
      exact ⟨hfree, fun _ _ => rfl, nofun⟩
    · rcases writeTemporary_cases htmp hlack hwrite with ⟨-, e, he⟩ |
        ⟨dir, before, hdir, -, hnone, rfl, hbefore⟩
      · cases he
      obtain rfl := hbefore rfl
      have hbeside := beside_of_rename hrename hname hparent
      have hfits := fits_of_rename hdir hnone hbeside hplain hrename
      obtain ⟨hover, hfiles⟩ := eq_put_of_rename htmp hname hparent hdir hne hnone hrename
      have hread := read_put_iff hdir hbeside hplain hfits hover before
      rw [← hfiles] at hread
      have hways := (SameWaysBut.refl (dir ++ [name]) t).put hover (.inl rfl) before false
      rw [← hfiles] at hways
      refine ⟨lacksTemporary_of_get? hname hparent hdir hways ?_, nofun, fun _ =>
        ⟨parent, name, dir, hparent, hname, hdir, hover, hfiles, hread⟩⟩
      rw [hfiles, get?_put (by simp), if_neg (by simpa using hne), hnone]

/-! ### A write that fails at its end, and one that replaces its own way -/

section Kept

/-- A host that does nothing but write. -/
def writingHost (files : FileTree) : Host where
  files := files
  directory := []
  executable := "/guard"
  input := []
  actor := "guard"
  now := ⟨0, 0⟩
  processId := 1
  writes := 0
  start _ _ files := (.error (.os .notFound), files)

/-- A file in a directory. -/
def keptTree : FileTree := (FileTree.empty.put [['d']] .directory).put [['d'], ['f']] (.file [1] false)

/-- Whether the last step of a write fails. -/
def renameFails : WriteFaults := fun s => if s = .rename then some (.os .accessDenied) else none

theorem keptTree_evaluated :
    Path.fileName? "d/f" = some ['f'] ∧ Path.parent? "d/f" = some "d" ∧
      keptTree.exists? [] "d" = true ∧ (keptTree.find [] "d/.").toOption = some ([['d']], .directory) ∧
      keptTree.get? [['d'], temporaryName ['f'] 1 0] = none ∧ keptTree.get? [['d'], ['f']] =
        some (.file [1] false) ∧
      (writeAtomicallyWith renameFails (writingHost keptTree) "d/f" [2]).1.toOption = none ∧
      (writeAtomicallyWith (fun _ => none) (writingHost keptTree) "d/f" [2]).1.toOption = some () := by
  decide +kernel

theorem ensureParent_keptTree (faults : WriteFaults) :
    ensureParent faults keptTree [] "d/f" = (keptTree, .ok ()) := by
  obtain ⟨-, hparent, hexists, -⟩ := keptTree_evaluated
  simp [ensureParent, hparent, hexists]

theorem lacksTemporary_keptTree : LacksTemporary (writingHost keptTree) "d/f" keptTree := by
  obtain ⟨hname, hparent, -, hdir, hnone, -⟩ := keptTree_evaluated
  exact lacksTemporary_of_get? hname hparent (eq_ok_of_toOption hdir) (.refl [] keptTree) hnone

/-- A write that cannot rename its temporary file keeps the file that was there, and a write that can
replaces it. -/
theorem writeAtomicallyWith_traceless_kept :
    (∃ e h', writeAtomicallyWith renameFails (writingHost keptTree) "d/f" [2] = (.error e, h') ∧
      h'.files = keptTree) ∧
    ∃ h', writeAtomicallyWith (fun _ => none) (writingHost keptTree) "d/f" [2] = (.ok (), h') ∧
      LacksTemporary (writingHost keptTree) "d/f" h'.files ∧ h'.files.read [] "d/f" = .ok [2] := by
  obtain ⟨hname, hparent, -, hdir, -, hfile, hfailed, hdone⟩ := keptTree_evaluated
  constructor
  · cases hrun : writeAtomicallyWith renameFails (writingHost keptTree) "d/f" [2] with
    | mk result h' =>
        obtain ⟨-, -, hkept, -⟩ := writeAtomicallyWith_traceless (ensureParent_keptTree renameFails)
          lacksTemporary_keptTree hrun
        rw [hrun] at hfailed
        cases result with
        | ok => cases hfailed
        | error e => exact ⟨e, h', rfl, hkept e rfl⟩
  · obtain ⟨h', hrun⟩ := exists_pair_of_toOption hdone
    obtain ⟨-, hlacks, -, hdone⟩ := writeAtomicallyWith_traceless
      (ensureParent_keptTree fun _ => none) lacksTemporary_keptTree hrun
    obtain ⟨parent, name, dir, hparent', hname', hdir', -, -, -, hread⟩ := hdone rfl
    obtain rfl := Option.some.inj (hname.symm.trans hname')
    obtain rfl := Option.some.inj (hparent.symm.trans hparent')
    obtain ⟨rfl, -⟩ := Prod.mk.inj (Except.ok.inj ((eq_ok_of_toOption hdir).symm.trans hdir'))
    refine ⟨h', hrun, hlacks, hread fun link hlink => ?_⟩
    rw [List.singleton_append, hfile] at hlink
    cases hlink

/-- A directory, and a link in it that leads to this directory. -/
def turnTree : FileTree :=
  (FileTree.empty.put [['d']] .directory).put [['d'], ['f']] (.link ".")

theorem turnTree_evaluated :
    Path.fileName? "d/f/f" = some ['f'] ∧ Path.parent? "d/f/f" = some "d/f" ∧
      (turnTree.find [] "d/f/.").toOption = some ([['d']], .directory) ∧
      turnTree.get? [['d'], temporaryName ['f'] 1 0] = none ∧
      (writeAtomically (writingHost turnTree) "d/f/f" [1]).1.toOption = some () ∧
      ((writeAtomically (writingHost turnTree) "d/f/f" [1]).2.files.read [] "d/f/f").isOk = false := by
  decide +kernel

/-- A write that succeeds, to a target that is a link on its own way, leaves a target that cannot be
read. -/
theorem writeAtomically_turnTree :
    ∃ h', writeAtomically (writingHost turnTree) "d/f/f" [1] = (.ok (), h') ∧
      LacksTemporary (writingHost turnTree) "d/f/f" turnTree ∧
      h'.files.read [] "d/f/f" ≠ .ok [1] := by
  obtain ⟨hname, hparent, hdir, hnone, hdone, hlost⟩ := turnTree_evaluated
  obtain ⟨h', hrun⟩ := exists_pair_of_toOption hdone
  rw [hrun] at hlost
  refine ⟨h', hrun, lacksTemporary_of_get? hname hparent (eq_ok_of_toOption hdir)
    (.refl [] turnTree) hnone, fun hread => ?_⟩
  rw [hread] at hlost
  cases hlost

end Kept

end StandardsGate
