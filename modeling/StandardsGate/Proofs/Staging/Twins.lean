import StandardsGate.Proofs.Host.Outcomes
import StandardsGate.Proofs.Staging.Own

/-!
Stagings on two hosts.

What is copied depends on the files outside of the staging directory only. So a staging does the same
on two hosts that have the same files there, whatever stands in their staging directories: it has the
same result, and it puts the same files there, one by one. The second of two stagings in a row is one
of these cases, and it changes nothing more.

Main definitions:

* `FileTree.putFiles`, `Host.withFiles` — files put into a directory;
* `Staging.Untaken` — whether nothing stands where temporary files go;
* `Staging.Prepared` — whether a host is ready for a staging;
* `Staging.Alike` — whether the names that two hosts write under are too long for both or for none;
* `Staging.AreCopies` — whether files have the names of what a configuration leads to;
* `Staging.CopiedLast` — whether the copy that is returned is the last one of some files.

Main results:

* `Staging.Prepared.withFiles` — **a host that is ready stays so while copies are written**;
* `Staging.Runs.exists_twins` — **a run on one host goes the same way on others**;
* `stageConfig_twins` — **staging depends on the sources only**.
-/

namespace StandardsGate

open FileTree

/-! ### Files put into a directory -/

section Files

/-- A tree with files in a directory. The last one of a name counts. -/
def FileTree.putFiles (t : FileTree) (dir : Location) (files : List (List Char × Bytes)) : FileTree :=
  ⟨t.entries.insertAll (files.map fun f => (dir ++ [f.1], .file f.2 false))⟩

/-- A host with files in a directory, for which it has written so many times. -/
def Host.withFiles (h : Host) (dir : Location) (files : List (List Char × Bytes)) (writes : Nat) :
    Host :=
  { h with
    files := h.files.putFiles dir files
    writes := h.writes + writes }

variable (t : FileTree) (h : Host) (dir : Location) (files files' : List (List Char × Bytes))

theorem FileTree.putFiles_append :
    (t.putFiles dir files).putFiles dir files' = t.putFiles dir (files ++ files') := by
  rw [putFiles, putFiles, putFiles, List.map_append, OrderedMap.insertAll_append]

/-- Files that are put once more change nothing. -/
theorem FileTree.putFiles_putFiles :
    (t.putFiles dir files).putFiles dir files = t.putFiles dir files := by
  rw [putFiles, putFiles, OrderedMap.insertAll_insertAll]

/-- **What stands in a tree with files**: one of them, or what stood there. -/
theorem FileTree.get?_putFiles (l : Location) :
    (∃ f ∈ files, l = dir ++ [f.1] ∧ (t.putFiles dir files).get? l = some (.file f.2 false)) ∨
      (∀ f ∈ files, l ≠ dir ++ [f.1]) ∧ (t.putFiles dir files).get? l = t.get? l := by
  induction files generalizing t with
  | nil => exact .inr ⟨fun _ hf => absurd hf List.not_mem_nil, rfl⟩
  | cons f files ih =>
      have hcons : t.putFiles dir (f :: files) =
          (t.put (dir ++ [f.1]) (.file f.2 false)).putFiles dir files := rfl
      rw [hcons]
      rcases ih (t.put (dir ++ [f.1]) (.file f.2 false)) with ⟨f', hf', hl, hget⟩ | ⟨hl, hget⟩
      · exact .inl ⟨f', List.mem_cons_of_mem _ hf', hl, hget⟩
      · rw [get?_put (by simp)] at hget
        by_cases hlf : l = dir ++ [f.1]
        · rw [if_pos hlf] at hget
          exact .inl ⟨f, List.mem_cons_self, hlf, hget⟩
        · rw [if_neg hlf] at hget
          exact .inr ⟨List.forall_mem_cons.2 ⟨hlf, hl⟩, hget⟩

theorem Host.withFiles_withFiles (m n : Nat) :
    (h.withFiles dir files m).withFiles dir files' n = h.withFiles dir (files ++ files') (m + n) := by
  simp [withFiles, putFiles_append, Nat.add_assoc]

theorem Host.withFiles_nil : h.withFiles dir [] 0 = h := rfl

end Files

namespace Staging

variable {t : FileTree} {cwd dir l : Location} {staging source p : Path} {name : List Char}
  {content : Bytes} {h h' h₁ h₂ : Host} {files : List (List Char × Bytes)} {n : Nat} {task : Task}
  {s s' : Progress} {result : Except Error Path}

/-! ### Hosts that are ready -/

/-- Whether nothing stands where the temporary files of the copies go, now and later. -/
structure Untaken (t : FileTree) (cwd dir : Location) (source : Path) (h : Host) : Prop where
  fresh : ∀ l name write, ReachedAs t cwd source l name → h.writes ≤ write →
    h.files.get? (dir ++ [temporaryName name h.processId write]) = none
  unclashing : Unclashing t cwd source h.processId

/-- Whether a host is ready for a staging: outside of the staging directory it has the files of a
tree, no directory stands where copies go, and the way to the staging directory is not through them. -/
structure Prepared (t : FileTree) (cwd dir : Location) (source staging : Path) (h : Host) : Prop
    extends Untaken t cwd dir source h where
  directory : h.directory = cwd
  outside : ∀ l, ¬ Location.Inside dir l → h.files.get? l = t.get? l
  opens : h.files.find cwd (staging.join ⟨['.']⟩) = .ok (dir, .directory)
  roomy : ∀ l name, ReachedAs t cwd source l name → h.files.get? (dir ++ [name]) ≠ some .directory
  clear : ∀ l name, ReachedAs t cwd source l name →
    dir ++ [name] ∉ h.files.trail cwd (staging.join ⟨['.']⟩)

/-- Whether the next so many writes of two hosts agree on whether the names of copies, and of their
temporary files, are too long. -/
def Alike (t : FileTree) (cwd : Location) (source staging : Path) (n : Nat) (h₁ h₂ : Host) : Prop :=
  ∀ l name, ReachedAs t cwd source l name → ∀ k < n,
    writeFault? staging name h₁.processId (h₁.writes + k) =
      writeFault? staging name h₂.processId (h₂.writes + k)

/-- Whether files are copies of what a configuration leads to. -/
def AreCopies (t : FileTree) (cwd : Location) (source : Path) (files : List (List Char × Bytes)) :
    Prop := ∀ f ∈ files, ∃ l, ReachedAs t cwd source l f.1

theorem Unclashing.ne_temporaryName {process : Nat} (hunclashing : Unclashing t cwd source process)
    (hreached : ReachedAs t cwd source l name) (m : List Char) (write : Nat) :
    name ≠ temporaryName m process write := by
  obtain ⟨visited, p, -, -, hspelled, -, hname⟩ := hreached
  rintro rfl
  exact hunclashing visited p hspelled m write hname

section Copies

variable (hcopies : AreCopies t cwd source files)
include hcopies

theorem Untaken.withFiles (hh : Untaken t cwd dir source h) (n : Nat) :
    Untaken t cwd dir source (h.withFiles dir files n) := by
  refine ⟨fun l name write hreached hwrite => ?_, hh.unclashing⟩
  have hfresh := hh.fresh l name write hreached (Nat.le_trans (Nat.le_add_right _ _) hwrite)
  rcases get?_putFiles h.files dir files (dir ++ [temporaryName name h.processId write]) with
    ⟨f, hf, heq, -⟩ | ⟨-, hget⟩
  · obtain ⟨l', hreached'⟩ := hcopies f hf
    exact absurd (by simpa using heq.symm) (hh.unclashing.ne_temporaryName hreached' name write)
  · exact hget.trans hfresh

/-- **A host that is ready stays so while copies are written.** -/
theorem Prepared.withFiles (hh : Prepared t cwd dir source staging h) (n : Nat) :
    Prepared t cwd dir source staging (h.withFiles dir files n) := by
  -- no copy is put on the way to the staging directory
  have htrail : ∀ x ∈ h.files.trail cwd (staging.join ⟨['.']⟩),
      (h.files.putFiles dir files).get? x = h.files.get? x := by
    intro x hx
    rcases get?_putFiles h.files dir files x with ⟨f, hf, rfl, -⟩ | ⟨-, hget⟩
    · obtain ⟨l, hreached⟩ := hcopies f hf
      exact absurd hx (hh.clear l f.1 hreached)
    · exact hget
  refine ⟨hh.toUntaken.withFiles hcopies n, hh.directory, fun l hl => ?_,
    (find_congr htrail).trans hh.opens, fun l name hreached => ?_, fun l name hreached => ?_⟩
  · rcases get?_putFiles h.files dir files l with ⟨f, -, rfl, -⟩ | ⟨-, hget⟩
    · exact absurd (Location.inside_concat dir f.1) hl
    · exact hget.trans (hh.outside l hl)
  · intro hdir
    rcases get?_putFiles h.files dir files (dir ++ [name]) with ⟨f, -, -, hget⟩ | ⟨-, hget⟩
    · cases hget.symm.trans hdir
    · exact hh.roomy l name hreached (hget.symm.trans hdir)
  · rw [Host.withFiles, trail_congr htrail]
    exact hh.clear l name hreached

end Copies

/-- Writes with the same number of the same process agree. -/
theorem alike_of_eq (hprocess : h₂.processId = h₁.processId) (hwrites : h₂.writes = h₁.writes) :
    Alike t cwd source staging n h₁ h₂ := by
  intro l name _ k _
  rw [hprocess, hwrites]

theorem Alike.mono (halike : Alike t cwd source staging n h₁ h₂) {m : Nat} (hm : m ≤ n) :
    Alike t cwd source staging m h₁ h₂ :=
  fun l name hreached k hk => halike l name hreached k (Nat.lt_of_lt_of_le hk hm)

theorem Alike.withFiles {m : Nat} (halike : Alike t cwd source staging (m + n) h₁ h₂)
    (files files' : List (List Char × Bytes)) :
    Alike t cwd source staging n (h₁.withFiles dir files m) (h₂.withFiles dir files' m) := by
  intro l name hreached k hk
  have hshift := halike l name hreached (m + k) (Nat.add_lt_add_left hk m)
  rw [← Nat.add_assoc, ← Nat.add_assoc] at hshift
  exact hshift

theorem AreCopies.append {files' : List (List Char × Bytes)} (h : AreCopies t cwd source files)
    (h' : AreCopies t cwd source files') : AreCopies t cwd source (files ++ files') := by
  intro f hf
  exact (List.mem_append.1 hf).elim (h f) (h' f)

/-- **A copy is written, or it is not**, as its name and path say. -/
theorem Prepared.write (hh : Prepared t cwd dir source staging h)
    (hreached : ReachedAs t cwd source l name) (content : Bytes) :
    (∃ e, writeFault? staging name h.processId h.writes = some e ∧
      writeAtomically h (staging.join ⟨name⟩) content = (.error e, h.withFiles dir [] 1)) ∨
    writeFault? staging name h.processId h.writes = none ∧
      writeAtomically h (staging.join ⟨name⟩) content =
        (.ok (), h.withFiles dir [(name, content)] 1) := by
  have hfresh := hh.fresh l name h.writes hreached (Nat.le_refl _)
  have hroomy := hh.roomy l name hreached
  have hopens := hh.opens
  rw [← hh.directory] at hopens
  obtain ⟨-, p, -, -, -, -, hname⟩ := hreached
  have hplain := Path.isPlainName_of_fileName? hname
  cases hfault : writeFault? staging name h.processId h.writes with
  | some e => exact .inl ⟨e, rfl, writeAtomically_of_fault hopens hplain hfresh hfault⟩
  | none => exact .inr ⟨rfl, writeAtomically_of_fits hopens hplain hfresh hfault hroomy⟩

/-- A write on one host goes the same way on others. -/
theorem Prepared.exists_write (hh : Prepared t cwd dir source staging h)
    (hreached : ReachedAs t cwd source l name) (content : Bytes) :
    ∃ files n done, AreCopies t cwd source files ∧ (done = .ok () → files = [(name, content)]) ∧
      ∀ h', Prepared t cwd dir source staging h' → Alike t cwd source staging n h h' →
        writeAtomically h' (staging.join ⟨name⟩) content = (done, h'.withFiles dir files n) := by
  have hsame : ∀ {h'}, Alike t cwd source staging 1 h h' →
      writeFault? staging name h.processId h.writes =
        writeFault? staging name h'.processId h'.writes :=
    fun halike => halike l name hreached 0 Nat.one_pos
  rcases hh.write hreached content with ⟨e, hfault, -⟩ | ⟨hfault, -⟩
  · refine ⟨[], 1, .error e, fun _ hf => absurd hf List.not_mem_nil, by simp,
      fun h' hh' halike => ?_⟩
    have hfault' := (hsame halike).symm.trans hfault
    rcases hh'.write hreached content with ⟨e', hsome, hwrite⟩ | ⟨hnone, -⟩
    · obtain rfl := Option.some.inj (hfault'.symm.trans hsome)
      exact hwrite
    · cases hfault'.symm.trans hnone
  · refine ⟨[(name, content)], 1, .ok (), fun f hf => ?_, fun _ => rfl, fun h' hh' halike => ?_⟩
    · obtain rfl := List.mem_singleton.1 hf
      exact ⟨l, hreached⟩
    · have hfault' := (hsame halike).symm.trans hfault
      rcases hh'.write hreached content with ⟨e', hsome, -⟩ | ⟨-, hwrite⟩
      · cases hfault'.symm.trans hsome
      · exact hwrite

/-! ### What is looked up -/

theorem Prepared.find (hh : Prepared t cwd dir source staging h) (hp : t.Avoids cwd dir p) :
    h.files.find h.directory p = t.find cwd p := by
  rw [hh.directory]
  exact find_congr fun x hx => hh.outside x (hp x hx)

/-- A host in the place of another one. -/
def Progress.on (s : Progress) (h : Host) : Progress := { s with host := h }

section Same

variable (hfind : h.files.find h.directory p = s.host.files.find s.host.directory p)
include hfind

theorem isFile_of_find_eq : h.files.isFile h.directory p = s.host.files.isFile s.host.directory p := by
  rw [FileTree.isFile, FileTree.isFile, hfind]

theorem read_of_find_eq : h.files.read h.directory p = s.host.files.read s.host.directory p := by
  rw [FileTree.read, FileTree.read, hfind]

theorem sourceKey_of_find_eq : sourceKey h p = sourceKey s.host p := by
  rw [sourceKey, sourceKey, canonical?, canonical?, hfind]

theorem hasMet_of_find_eq : (s.on h).hasMet p = s.hasMet p := by
  rw [Progress.hasMet, Progress.hasMet, Progress.on, sourceKey_of_find_eq hfind]

theorem reading_of_find_eq : (s.on h).reading p = (s.reading p).on h := by
  rw [Progress.reading, Progress.reading, Progress.on, Progress.on, sourceKey_of_find_eq hfind]

end Same

/-- Whether chains spell the paths that a task looks up, with configurations that have been met. -/
inductive Task.Within (t : FileTree) (cwd : Location) (source : Path) (met : List Path) : Task → Prop
  | copy {visited : List Location} {p : Path} (hspelled : Spelled t cwd source visited p)
      (hvisited : ∀ x ∈ visited, x.path ∈ met) : Within t cwd source met (.copy p)
  | follow {key p : Path} {content : Bytes} {entries : List String} {renames : SortedMap String}
      {visited : List Location}
      (hreached : ∀ name, p.fileName? = some name → ∃ l, ReachedAs t cwd source l name)
      (hentries : ∀ e ∈ entries, Spelled t cwd source visited (entryPath p e))
      (hvisited : ∀ x ∈ visited, x.path ∈ met) :
      Within t cwd source met (.follow key p content entries renames)

variable {met met' : List Path} {key : Path} {entry : String} {entries : List String}
  {renames renames' : SortedMap String}

/-- What a copy that is started looks up. -/
theorem Task.Within.start (hwithin : (Task.copy p).Within t cwd source s.met)
    (hname : p.fileName? = some name)
    (hfind : ∀ visited, Spelled t cwd source visited p →
      s.host.files.find s.host.directory p = t.find cwd p)
    (hfresh : s.hasMet p = false) (hread : s.host.files.read s.host.directory p = .ok content) :
    (Task.follow key p content (extendsEntries content) renames).Within t cwd source
      (s.reading p).met := by
  cases hwithin with
  | @copy visited _ hspelled hvisited =>
      obtain ⟨l, runnable, hfile⟩ := exists_find_of_read hread
      have hkey := sourceKey_of_find hfile
      rw [hfind visited hspelled] at hfile
      have hnew : l ∉ visited := by
        intro hl
        have hmet : s.hasMet p = true := by
          rw [Progress.hasMet, List.any_eq_true, hkey]
          exact ⟨l.path, hvisited l hl, by simp [Path.same]⟩
        cases hmet.symm.trans hfresh
      have hentries : ∀ e ∈ extendsEntries content,
          Spelled t cwd source (l :: visited) (entryPath p e) :=
        fun e he => .entry hspelled hfile hname hnew he
      refine .follow (fun name hname => ⟨l, visited, p, content, runnable, hspelled, hfile, hname⟩)
        hentries (List.forall_mem_cons.2
          ⟨?_, fun x hx => List.mem_cons_of_mem _ (hvisited x hx)⟩)
      rw [Progress.reading, hkey]
      exact List.mem_cons_self

theorem Task.Within.first
    (hwithin : (Task.follow key p content (entry :: entries) renames).Within t cwd source met) :
    (Task.copy (entryPath p entry)).Within t cwd source met := by
  cases hwithin with
  | follow _ hentries hvisited => exact .copy (hentries entry List.mem_cons_self) hvisited

theorem Task.Within.next
    (hwithin : (Task.follow key p content (entry :: entries) renames).Within t cwd source met)
    (hmet : met ⊆ met') :
    (Task.follow key p content entries renames').Within t cwd source met' := by
  cases hwithin with
  | follow hreached hentries hvisited =>
      exact .follow hreached (fun e he => hentries e (List.mem_cons_of_mem _ he))
        fun x hx => hmet (hvisited x hx)

/-! ### Runs -/

/-- Whether the copy that a task comes to is the last one of some files, unless it was there before. -/
def CopiedLast (staging : Path) (task : Task) (s : Progress) (copy : Path)
    (files : List (List Char × Bytes)) : Prop :=
  (∃ p, task = .copy p ∧ s.hasMet p = true) ∨
    ∃ name content, task.path.fileName? = some name ∧ copy = staging.join ⟨name⟩ ∧
      files.getLast? = some (name, content)

/-- What comes last in following the rest of a source's entries comes last in following all of them. -/
theorem CopiedLast.of_rest {copy : Path}
    (h : CopiedLast staging (.follow key p content entries renames) s copy files) (s' : Progress)
    (files' : List (List Char × Bytes)) :
    CopiedLast staging (.follow key p content (entry :: entries) renames') s' copy
      (files' ++ files) := by
  rcases h with ⟨q, htask, -⟩ | ⟨name, content', hname, hcopy, hlast⟩
  · cases htask
  · exact .inr ⟨name, content', hname, hcopy, by rw [List.getLast?_append, hlast]; rfl⟩

/-- **A run on one host goes the same way on others**: it has the same result, it meets and logs the
same, and it puts the same files into the staging directory, its own copy as the last one. -/
theorem Runs.exists_twins (hruns : Runs staging task s result s')
    (hapart : ∀ visited p, Spelled t cwd source visited p → t.Avoids cwd dir p)
    (hs : Prepared t cwd dir source staging s.host) (hwithin : task.Within t cwd source s.met) :
    ∃ files n, AreCopies t cwd source files ∧
      (∀ copy, result = .ok copy → CopiedLast staging task s copy files) ∧
      s'.host = s.host.withFiles dir files n ∧
      ∀ h, Prepared t cwd dir source staging h → Alike t cwd source staging n s.host h →
        Runs staging task (s.on h) result (s'.on (h.withFiles dir files n)) := by
  have hsame : ∀ {s : Progress} {h : Host} {p : Path}, Prepared t cwd dir source staging s.host →
      Prepared t cwd dir source staging h → (Task.copy p).Within t cwd source s.met →
      h.files.find h.directory p = s.host.files.find s.host.directory p := by
    intro s h p hs hh hwithin
    cases hwithin with
    | copy hspelled => rw [hh.find (hapart _ _ hspelled), hs.find (hapart _ _ hspelled)]
  have hnone : AreCopies t cwd source [] := fun _ hf => absurd hf List.not_mem_nil
  induction hruns with
  | nameless hname => exact ⟨[], 0, hnone, by simp, rfl, fun h _ _ => .nameless hname⟩
  | met hname hmet =>
      refine ⟨[], 0, hnone, fun _ _ => .inl ⟨_, rfl, hmet⟩, rfl, fun h hh _ => .met hname ?_⟩
      exact (hasMet_of_find_eq (hsame hs hh hwithin)).trans hmet
  | unreadable hname hfresh hread =>
      refine ⟨[], 0, hnone, by simp, rfl, fun h hh _ => ?_⟩
      have hfind := hsame hs hh hwithin
      rw [Host.withFiles_nil, ← reading_of_find_eq hfind]
      exact .unreadable hname ((hasMet_of_find_eq hfind).trans hfresh)
        ((read_of_find_eq hfind).trans hread)
  | start hname hfresh hread _ ih =>
      obtain ⟨files, n, hcopies, hlast, hhost, hruns⟩ := ih hs
        (hwithin.start hname (fun _ hspelled => hs.find (hapart _ _ hspelled)) hfresh hread)
      refine ⟨files, n, hcopies, fun copy hresult => ?_, hhost, fun h hh halike => ?_⟩
      · rcases hlast copy hresult with ⟨p, htask, -⟩ | hlast
        · cases htask
        · exact .inr hlast
      · have hfind := hsame hs hh hwithin
        refine .start hname ((hasMet_of_find_eq hfind).trans hfresh)
          ((read_of_find_eq hfind).trans hread) ?_
        rw [reading_of_find_eq hfind]
        exact (sourceKey_of_find_eq hfind).symm ▸ hruns h hh halike
  | skipped hfile _ ih =>
      obtain ⟨files, n, hcopies, hlast, hhost, hruns⟩ :=
        ih hs (hwithin.next (List.Subset.refl _))
      exact ⟨files, n, hcopies, fun copy hresult => (hlast copy hresult).of_rest _ [], hhost,
        fun h hh halike => .skipped ((isFile_of_find_eq (hsame hs hh hwithin.first)).trans hfile)
          (hruns h hh halike)⟩
  | followed hfile first _ ihFirst ihMore =>
      obtain ⟨files, m, hcopies, -, hhost, hfirst⟩ := ihFirst hs hwithin.first
      obtain ⟨files', n, hcopies', hlast, hhost', hmore⟩ :=
        ihMore (hhost ▸ hs.withFiles hcopies m) (hwithin.next first.met_subset)
      refine ⟨files ++ files', m + n, hcopies.append hcopies',
        fun copy hresult => (hlast copy hresult).of_rest _ files, ?_, fun h hh halike => ?_⟩
      · rw [hhost', hhost, Host.withFiles_withFiles]
      · have hnext := hmore _ (hh.withFiles hcopies m) (hhost ▸ halike.withFiles files files)
        rw [Host.withFiles_withFiles] at hnext
        exact .followed ((isFile_of_find_eq (hsame hs hh hwithin.first)).trans hfile)
          (hfirst h hh (halike.mono (Nat.le_add_right m n))) hnext
  | failed hfile _ ih =>
      obtain ⟨files, n, hcopies, -, hhost, hfirst⟩ := ih hs hwithin.first
      exact ⟨files, n, hcopies, by simp, hhost, fun h hh halike =>
        .failed ((isFile_of_find_eq (hsame hs hh hwithin.first)).trans hfile) (hfirst h hh halike)⟩
  | unwritable hname hwrite =>
      cases hwithin with
      | follow hreached =>
          obtain ⟨l, hreached⟩ := hreached _ hname
          obtain ⟨files, n, done, hcopies, -, hdone⟩ := hs.exists_write hreached _
          cases (hdone _ hs (alike_of_eq rfl rfl)).symm.trans hwrite
          exact ⟨files, n, hcopies, by simp, rfl,
            fun h hh halike => .unwritable hname (hdone h hh halike)⟩
  | written hname hwrite =>
      cases hwithin with
      | follow hreached =>
          obtain ⟨l, hreached⟩ := hreached _ hname
          obtain ⟨files, n, done, hcopies, hfiles, hdone⟩ := hs.exists_write hreached _
          cases (hdone _ hs (alike_of_eq rfl rfl)).symm.trans hwrite
          refine ⟨files, n, hcopies, fun copy hresult => ?_, rfl,
            fun h hh halike => .written hname (hdone h hh halike)⟩
          rw [hfiles rfl]
          exact .inr ⟨_, _, hname, (Except.ok.inj hresult).symm, rfl⟩

/-! ### Stagings -/

/-- The staging directory of a host that is ready need not be made. -/
theorem Prepared.makeDirectories (hh : Prepared t cwd dir source staging h) :
    h.files.makeDirectories h.directory staging = (h.files, .ok ()) :=
  makeDirectories_of_find (hh.directory ▸ hh.opens)

theorem Prepared.run_of_runs (hh : Prepared t cwd dir source staging h)
    (hruns : Runs staging (.copy source) ⟨h, [], []⟩ result s) :
    (stageConfig source staging).run.run h = (result, s.host) := by
  obtain ⟨result', s', hstages, hrun⟩ := exists_stages h source staging
  obtain ⟨rfl, rfl⟩ := hstages.unique (.made hh.makeDirectories hruns)
  exact hrun

/-- **A staging on one host goes the same way on others.** -/
theorem Prepared.exists_run
    (hapart : ∀ visited p, Spelled t cwd source visited p → t.Avoids cwd dir p)
    (hh : Prepared t cwd dir source staging h) :
    ∃ result files n, AreCopies t cwd source files ∧
      (∀ copy, result = .ok copy → ∃ name content, source.fileName? = some name ∧
        copy = staging.join ⟨name⟩ ∧ files.getLast? = some (name, content)) ∧
      ∀ h', Prepared t cwd dir source staging h' → Alike t cwd source staging n h h' →
        (stageConfig source staging).run.run h' = (result, h'.withFiles dir files n) := by
  obtain ⟨result, s, hstages, -⟩ := exists_stages h source staging
  cases hstages with
  | unmade hmade => cases hh.makeDirectories.symm.trans hmade
  | made hmade hruns =>
      cases hh.makeDirectories.symm.trans hmade
      have hwithin : (Task.copy source).Within t cwd source [] :=
        .copy .source fun _ hx => absurd hx List.not_mem_nil
      obtain ⟨files, n, hcopies, hlast, -, htwins⟩ := hruns.exists_twins hapart hh hwithin
      refine ⟨result, files, n, hcopies, fun copy hresult => ?_,
        fun h' hh' halike => hh'.run_of_runs (htwins h' hh' halike)⟩
      rcases hlast copy hresult with ⟨_, -, hmet⟩ | hlast
      · cases hmet
      · exact hlast

/-! ### Hosts that are checked to be ready -/

/-- No temporary file is there if no name begins with a dot. -/
theorem get?_temporaryName_of_entries
    (hentries : ∀ e ∈ t.entries.entries, e.1.getLast?.bind List.head? ≠ some '.') (dir : Location)
    (name : List Char) (process write : Nat) :
    t.get? (dir ++ [temporaryName name process write]) = none := by
  cases hget : t.get? (dir ++ [temporaryName name process write]) with
  | none => rfl
  | some e =>
      refine absurd ?_ (hentries _ (mem_entries_of_get? (by simp) hget))
      rw [List.getLast?_concat]
      rfl

/-- What is said of the names of all that is spelled holds of the names of copies. -/
theorem forall_reachedAs_of_spellings {P : List Char → Prop} (k : Nat)
    (hend : spellings t cwd source k = [])
    (hspelled : ∀ q ∈ (List.range k).flatMap (spellings t cwd source),
      ∀ name ∈ q.2.fileName?.toList, P name) (hreached : ReachedAs t cwd source l name) : P name := by
  obtain ⟨visited, p, -, -, hp, -, hname⟩ := hreached
  exact forall_of_spellings (P := fun q => ∀ name ∈ q.2.fileName?.toList, P name) k hend hspelled hp
    name (by simp [hname])

/-- Where chains come to an end, it can be checked one by one that a host is ready. -/
theorem prepared_of_spellings (k : Nat) (hend : spellings t cwd source k = [])
    (hdirectory : h.directory = cwd)
    (houtside : ∀ l, ¬ Location.Inside dir l → h.files.get? l = t.get? l)
    (hopens : h.files.find cwd (staging.join ⟨['.']⟩) = .ok (dir, .directory))
    (hentries : ∀ e ∈ h.files.entries.entries, e.1.getLast?.bind List.head? ≠ some '.')
    (hplain : ∀ q ∈ (List.range k).flatMap (spellings t cwd source),
      q.2.fileName?.all (fun name => !(['.', 't', 'm', 'p'].isSuffixOf name)) = true)
    (hspelled : ∀ q ∈ (List.range k).flatMap (spellings t cwd source),
      ∀ name ∈ q.2.fileName?.toList, h.files.get? (dir ++ [name]) ≠ some .directory ∧
        dir ++ [name] ∉ h.files.trail cwd (staging.join ⟨['.']⟩)) :
    Prepared t cwd dir source staging h where
  fresh := fun _ name write _ _ => get?_temporaryName_of_entries hentries dir name h.processId write
  unclashing := unclashing_of_spellings k hend hplain h.processId
  directory := hdirectory
  outside := houtside
  opens := hopens
  roomy := fun _ _ hreached => (forall_reachedAs_of_spellings k hend hspelled hreached).1
  clear := fun _ _ hreached => (forall_reachedAs_of_spellings k hend hspelled hreached).2

end Staging

open Staging in
/-- **Staging depends on the sources only.** On hosts that have the same files outside of the staging
directory, whatever stands in it, a staging has the same result and puts the same files there, under
the names of the configurations that the source leads to, and changes nothing else. If it succeeds, the
copy that it returns is put last. Another staging after it, by the same process or another one, has the
same result and changes no file. -/
theorem stageConfig_twins {t : FileTree} {cwd dir : Location} {source staging : Path} {h : Host}
    (hapart : ∀ visited p, Spelled t cwd source visited p → t.Avoids cwd dir p)
    (hh : Prepared t cwd dir source staging h) :
    ∃ result files n,
      (stageConfig source staging).run.run h = (result, h.withFiles dir files n) ∧
      AreCopies t cwd source files ∧
      (∀ copy, result = .ok copy → ∃ name content, source.fileName? = some name ∧
        copy = staging.join ⟨name⟩ ∧ files.getLast? = some (name, content)) ∧
      (∀ h', Prepared t cwd dir source staging h' → Alike t cwd source staging n h h' →
        (stageConfig source staging).run.run h' = (result, h'.withFiles dir files n)) ∧
      Untaken t cwd dir source (h.withFiles dir files n) ∧
      ∀ h', h'.files = h.files.putFiles dir files → h'.directory = cwd →
        Untaken t cwd dir source h' → Alike t cwd source staging n h h' →
        (stageConfig source staging).run.run h' = (result, { h' with writes := h'.writes + n }) := by
  obtain ⟨result, files, n, hcopies, hlast, hruns⟩ := hh.exists_run hapart
  have hafter := hh.withFiles hcopies n
  refine ⟨result, files, n, hruns h hh (alike_of_eq rfl rfl), hcopies, hlast, hruns,
    hafter.toUntaken, fun h' hfiles hdirectory huntaken halike => ?_⟩
  have hh' : Prepared t cwd dir source staging h' := by
    refine ⟨huntaken, hdirectory, ?_, ?_, ?_, ?_⟩ <;> rw [hfiles]
    · exact hafter.outside
    · exact hafter.opens
    · exact hafter.roomy
    · exact hafter.clear
  rw [hruns h' hh' halike, Host.withFiles, hfiles, putFiles_putFiles, ← hfiles]

/-! ### A staging directory that is not empty, and one that its way leads through -/

section Stale

open Staging

/-- Two configurations that extend each other, and an empty staging directory. -/
def readyTree : FileTree := ringTree.put [['w'], "out".toList] .directory

theorem readyTree_evaluated :
    (spellings readyTree [['w']] "main.json" 3).isEmpty = true ∧
      (∀ q ∈ (List.range 3).flatMap (spellings readyTree [['w']] "main.json"),
        readyTree.Avoids [['w']] [['w'], "out".toList] q.2) ∧
      (∀ q ∈ (List.range 3).flatMap (spellings readyTree [['w']] "main.json"),
        q.2.fileName?.all (fun name => !(['.', 't', 'm', 'p'].isSuffixOf name)) = true) ∧
      (∀ q ∈ (List.range 3).flatMap (spellings readyTree [['w']] "main.json"),
        ∀ name ∈ q.2.fileName?.toList, ∀ k ∈ List.range 4, writeFault? "out" name 1 k = none) ∧
      ((stageConfig "main.json" "out").run.run (stagingHost readyTree)).1.toOption =
        some "out/main.json" ∧
      ((stageConfig "main.json" "out").run.run (stagingHost readyTree)).2.writes = 2 := by
  decide +kernel

theorem stale_evaluated : ∀ t ∈ [readyTree, staleTree],
    (t.find [['w']] "out/.").toOption = some ([['w'], "out".toList], .directory) ∧
      (∀ e ∈ t.entries.entries, e.1.getLast?.bind List.head? ≠ some '.') ∧
      ∀ q ∈ (List.range 3).flatMap (spellings readyTree [['w']] "main.json"),
        ∀ name ∈ q.2.fileName?.toList,
          t.get? ([['w'], "out".toList] ++ [name]) ≠ some .directory ∧
            [['w'], "out".toList] ++ [name] ∉ t.trail [['w']] "out/." := by
  decide +kernel

theorem prepared_of_stale {t : FileTree} (ht : t ∈ [readyTree, staleTree])
    (houtside : ∀ l, ¬ Location.Inside [['w'], "out".toList] l → t.get? l = readyTree.get? l) :
    Prepared readyTree [['w']] [['w'], "out".toList] "main.json" "out" (stagingHost t) := by
  obtain ⟨hend, -, hplain, -⟩ := readyTree_evaluated
  obtain ⟨hopens, hentries, hspelled⟩ := stale_evaluated t ht
  exact prepared_of_spellings 3 (List.isEmpty_iff.1 hend) rfl houtside (eq_ok_of_toOption hopens)
    hentries hplain hspelled

/-- Two stagings into an empty staging directory do the same, and so does one into a directory with
something left behind. -/
theorem stageConfig_twins_stale :
    ∃ files n, (stageConfig "main.json" "out").run.run (stagingHost readyTree) = (.ok "out/main.json",
        (stagingHost readyTree).withFiles [['w'], "out".toList] files n) ∧
      (stageConfig "main.json" "out").run.run (stagingHost staleTree) = (.ok "out/main.json",
        (stagingHost staleTree).withFiles [['w'], "out".toList] files n) ∧
      (stageConfig "main.json" "out").run.run
          ((stagingHost readyTree).withFiles [['w'], "out".toList] files n) = (.ok "out/main.json",
        (stagingHost readyTree).withFiles [['w'], "out".toList] files (n + n)) := by
  obtain ⟨hend, hapart, -, hshort, hresult, hwrites⟩ := readyTree_evaluated
  have hready := prepared_of_stale (t := readyTree) (by simp) fun _ _ => rfl
  have hstale := prepared_of_stale (t := staleTree) (by simp) fun l hl => by
    refine (get?_put (by simp) l).trans (if_neg ?_)
    rintro rfl
    exact hl (by decide)
  obtain ⟨result, files, n, hrun, -, -, htwins, huntaken, hagain⟩ := stageConfig_twins
    (fun _ _ => forall_of_spellings (P := fun q => readyTree.Avoids _ _ q.2) 3
      (List.isEmpty_iff.1 hend) hapart) hready
  rw [hrun] at hresult hwrites
  obtain rfl := eq_ok_of_toOption hresult
  obtain rfl : n = 2 := (Nat.zero_add n).symm.trans hwrites
  have hfits : ∀ l name, ReachedAs readyTree [['w']] "main.json" l name → ∀ k < 4,
      writeFault? "out" name 1 k = none := fun l name hreached k hk =>
    forall_reachedAs_of_spellings 3 (List.isEmpty_iff.1 hend) hshort hreached k (List.mem_range.2 hk)
  refine ⟨files, 2, hrun, htwins _ hstale (alike_of_eq rfl rfl), hagain _ rfl rfl huntaken ?_⟩
  intro l name hreached k hk
  exact (hfits l name hreached (0 + k) (by omega)).trans
    (hfits l name hreached (0 + 2 + k) (by omega)).symm

end Stale

section Way

open Staging

/-- A configuration and its neighbour that it extends, and a staging directory. -/
def forkTree : FileTree :=
  ((((FileTree.empty.put [['w']] .directory).put [['w'], "src".toList] .directory).put
    [['w'], "src".toList, "main.json".toList]
      (.file (Utf8.encode "\x7b\"extends\": \"./self\"\x7d") false)).put
    [['w'], "src".toList, "self".toList] (.file (Utf8.encode "\x7b\x7d") false)).put
    [['w'], "stage".toList] .directory

/-- A link that leads to the staging directory. -/
def straightTree : FileTree := forkTree.put [['w'], "stage".toList, "way".toList] (.link ".")

/-- A link that leads to the staging directory through one with the name of a copy. -/
def bentTree : FileTree :=
  (forkTree.put [['w'], "stage".toList, "way".toList] (.link "self")).put
    [['w'], "stage".toList, "self".toList] (.link ".")

theorem way_evaluated :
    (spellings straightTree [['w']] "src/main.json" 3).isEmpty = true ∧
      (∀ q ∈ (List.range 3).flatMap (spellings straightTree [['w']] "src/main.json"),
        straightTree.Avoids [['w']] [['w'], "stage".toList] q.2 ∧
          q.2.fileName?.all (fun name => !(['.', 't', 'm', 'p'].isSuffixOf name)) = true) ∧
      (∀ t ∈ [straightTree, bentTree],
        (t.find [['w']] "stage/way/.").toOption = some ([['w'], "stage".toList], .directory) ∧
          (∀ e ∈ t.entries.entries, e.1.getLast?.bind List.head? ≠ some '.') ∧
          ∀ q ∈ (List.range 3).flatMap (spellings straightTree [['w']] "src/main.json"),
            ∀ name ∈ q.2.fileName?.toList,
              t.get? ([['w'], "stage".toList] ++ [name]) ≠ some .directory) ∧
      ((stageConfig "src/main.json" "stage/way").run.run (stagingHost straightTree)).1.toOption =
        some "stage/way/main.json" ∧
      ((stageConfig "src/main.json" "stage/way").run.run (stagingHost bentTree)).1.toOption = none := by
  decide +kernel

/-- Two hosts that differ in the staging directory only, and a staging that succeeds on one of them and
fails on the other one: the first copy replaces a link on the way to the staging directory. -/
theorem stageConfig_bent :
    ∃ h₁ h₂ e,
      (stageConfig "src/main.json" "stage/way").run.run (stagingHost straightTree) =
        (.ok "stage/way/main.json", h₁) ∧
      (stageConfig "src/main.json" "stage/way").run.run (stagingHost bentTree) = (.error e, h₂) ∧
      (∀ l, ¬ Location.Inside [['w'], "stage".toList] l → bentTree.get? l = straightTree.get? l) ∧
      (∀ visited p, Spelled straightTree [['w']] "src/main.json" visited p →
        straightTree.Avoids [['w']] [['w'], "stage".toList] p) ∧
      ∀ t ∈ [straightTree, bentTree],
        t.find [['w']] "stage/way/." = .ok ([['w'], "stage".toList], .directory) ∧
          (∀ l name, ReachedAs straightTree [['w']] "src/main.json" l name →
            t.get? ([['w'], "stage".toList] ++ [name]) ≠ some .directory) ∧
          Untaken straightTree [['w']] [['w'], "stage".toList] "src/main.json" (stagingHost t) := by
  obtain ⟨hempty, hspelled, hchecked, hdone, hfailed⟩ := way_evaluated
  have hend := List.isEmpty_iff.1 hempty
  obtain ⟨h₁, hrun₁⟩ := exists_pair_of_toOption hdone
  cases hrun₂ : (stageConfig "src/main.json" "stage/way").run.run (stagingHost bentTree) with
  | mk result h₂ =>
      rw [hrun₂] at hfailed
      cases result with
      | ok => cases hfailed
      | error e =>
          refine ⟨h₁, h₂, e, hrun₁, rfl, fun l hl => ?_, fun _ _ => forall_of_spellings
            (P := fun q => straightTree.Avoids _ _ q.2) 3 hend fun q hq => (hspelled q hq).1,
            fun t ht => ?_⟩
          · have hother : ∀ name, l ≠ [['w'], "stage".toList, name] := by
              rintro name rfl
              exact hl (Location.inside_concat [['w'], "stage".toList] name)
            rw [bentTree, straightTree, get?_put (by simp), if_neg (hother _), get?_put (by simp),
              if_neg (hother _), get?_put (by simp), if_neg (hother _)]
          · obtain ⟨hopens, hentries, hroomy⟩ := hchecked t ht
            exact ⟨eq_ok_of_toOption hopens,
              fun _ _ hreached => forall_reachedAs_of_spellings 3 hend hroomy hreached,
              fun _ name write _ _ => get?_temporaryName_of_entries hentries _ name 1 write,
              unclashing_of_spellings 3 hend (fun q hq => (hspelled q hq).2) 1⟩

end Way

end StandardsGate
