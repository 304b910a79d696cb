import StandardsGate.Proofs.Host.Temporary
import StandardsGate.Proofs.Staging.Entries
import StandardsGate.Proofs.Staging.Termination

/-!
What a copy leaves behind.

While a run writes into the staging directory, everything outside stays as it was. As long as no path
that is looked up leads into that directory, every look finds what it would have found at first, and
what a run has read and written can be told from the file system that it started with.

Main definitions:

* `Staging.Spelled`, `Staging.ReachedAs` — the paths that chains of different configurations spell,
  and the names by which they lead to files;
* `Staging.Frozen` — a tree that has changed in one directory only;
* `Staging.renamesFor` — what the entries of a source are renamed to;
* `Staging.Coherent` — what has been read, what has been written, and what stands in the staging
  directory.

Main results:

* `Staging.renamed_renamesFor` — what an entry is renamed to;
* `Staging.Runs.coherent` — **a copy that succeeds keeps all that coherent**.
-/

namespace StandardsGate.Staging

open FileTree

/-! ### Paths that are looked up -/

/-- The paths that chains of configurations spell which stand at different places: the source itself,
and the entries of a configuration that has a name, read from the directory of its path. -/
inductive Spelled (t : FileTree) (cwd : Location) (source : Path) : List Location → Path → Prop
  | source : Spelled t cwd source [] source
  | entry {visited : List Location} {p : Path} {l : Location} {content : Bytes} {runnable : Bool}
      {name : List Char} {e : String} (more : Spelled t cwd source visited p)
      (hfind : t.find cwd p = .ok (l, .file content runnable)) (hname : p.fileName? = some name)
      (hnew : l ∉ visited) (he : e ∈ extendsEntries content) :
      Spelled t cwd source (l :: visited) (entryPath p e)

/-- What the entries of a configuration spell that a chain spells the path of, unless the chain has
passed its place. -/
def nextSpellings (t : FileTree) (cwd : Location) (q : List Location × Path) :
    List (List Location × Path) :=
  match t.find cwd q.2 with
  | .ok (l, .file content _) =>
    if l ∈ q.1 ∨ q.2.fileName? = none then []
    else (extendsEntries content).map fun e => (l :: q.1, entryPath q.2 e)
  | _ => []

/-- What chains of some length spell. -/
def spellings (t : FileTree) (cwd : Location) (source : Path) : Nat → List (List Location × Path)
  | 0 => [([], source)]
  | n + 1 => (spellings t cwd source n).flatMap (nextSpellings t cwd)

theorem Spelled.mem_spellings {t : FileTree} {cwd : Location} {source p : Path}
    {visited : List Location} (h : Spelled t cwd source visited p) :
    (visited, p) ∈ spellings t cwd source visited.length := by
  induction h with
  | source => exact List.mem_singleton.2 rfl
  | entry _ hfind hname hnew he ih =>
      refine List.mem_flatMap.2 ⟨_, ih, ?_⟩
      rw [nextSpellings, hfind]
      dsimp only
      rw [if_neg (by simp [hnew, hname])]
      exact List.mem_map.2 ⟨_, he, rfl⟩

/-- What is spelled can be checked one by one if chains come to an end. -/
theorem forall_of_spellings {t : FileTree} {cwd : Location} {source : Path}
    {P : List Location × Path → Prop} (n : Nat) (hend : spellings t cwd source n = [])
    (h : ∀ q ∈ (List.range n).flatMap (spellings t cwd source), P q) {visited : List Location}
    {p : Path} (hspelled : Spelled t cwd source visited p) : P (visited, p) := by
  have hnil : ∀ k, spellings t cwd source (n + k) = [] := by
    intro k
    induction k with
    | zero => exact hend
    | succ k ih => rw [← Nat.add_assoc, spellings, ih]; rfl
  have hmem := hspelled.mem_spellings
  rcases Nat.lt_or_ge visited.length n with hshort | hlong
  · exact h _ (List.mem_flatMap.2 ⟨_, List.mem_range.2 hshort, hmem⟩)
  · obtain ⟨k, hk⟩ := Nat.exists_eq_add_of_le hlong
    rw [hk, hnil k] at hmem
    cases hmem

/-- Whether a chain leads to the file at a place by a path that ends in a name. -/
def ReachedAs (t : FileTree) (cwd : Location) (source : Path) (l : Location) (name : List Char) :
    Prop :=
  ∃ visited p content runnable, Spelled t cwd source visited p ∧
    t.find cwd p = .ok (l, .file content runnable) ∧ p.fileName? = some name

/-- Where configurations are copied: into a directory that no path leads into which is looked up. -/
structure Setting (t : FileTree) (cwd dir : Location) (source staging : Path) : Prop where
  proper : cwd.IsProper
  directory : t.find cwd (staging.join ⟨['.']⟩) = .ok (dir, .directory)
  unlinked : ∀ name target, t.get? (dir ++ [name]) ≠ some (.link target)
  apart : ∀ visited p, Spelled t cwd source visited p → t.Avoids cwd dir p

/-- Where nothing is a link and chains come to an end, what is looked up can be checked one by one. -/
theorem setting_of_spellings {t : FileTree} {cwd dir : Location} {source staging : Path} (n : Nat)
    (hend : spellings t cwd source n = []) (hproper : cwd.IsProper) (hlinkless : t.Linkless)
    (hdir : t.find cwd (staging.join ⟨['.']⟩) = .ok (dir, .directory))
    (h : ∀ q ∈ (List.range n).flatMap (spellings t cwd source), t.Avoids cwd dir q.2) :
    Setting t cwd dir source staging where
  proper := hproper
  directory := hdir
  unlinked := fun _ target => hlinkless _ target
  apart := fun _ _ => forall_of_spellings (P := fun q => t.Avoids cwd dir q.2) n hend h

/-- Whether a source may have the name of a temporary file of the process. -/
def Unclashing (t : FileTree) (cwd : Location) (source : Path) (process : Nat) : Prop :=
  ∀ visited p, Spelled t cwd source visited p → ∀ name write,
    p.fileName? ≠ some (temporaryName name process write)

/-- Names that do not end as those of temporary files are none of these. -/
theorem unclashing_of_spellings {t : FileTree} {cwd : Location} {source : Path} (n : Nat)
    (hend : spellings t cwd source n = [])
    (h : ∀ q ∈ (List.range n).flatMap (spellings t cwd source),
      q.2.fileName?.all (fun name => !(['.', 't', 'm', 'p'].isSuffixOf name)) = true)
    (process : Nat) : Unclashing t cwd source process := by
  intro visited p hspelled name write hname
  have hplain := forall_of_spellings (P := fun q => q.2.fileName?.all _ = true) n hend h hspelled
  have hsuffix : ['.', 't', 'm', 'p'].isSuffixOf (temporaryName name process write) = true :=
    List.isSuffixOf_iff_suffix.2 (List.suffix_append _ _)
  dsimp only at hplain
  rw [hname, Option.all_some, hsuffix] at hplain
  cases hplain

/-! ### Trees that change in one directory -/

/-- Whether a tree is another one but for what stands in a directory, where there are the same
directories and links. -/
structure Frozen (t : FileTree) (dir : Location) (t' : FileTree) : Prop where
  outside : ∀ l, ¬ Location.Inside dir l → t'.get? l = t.get? l
  ways : SameWays t t'

variable {t t' : FileTree} {cwd dir : Location} {source staging p copy : Path} {content : Bytes}
  {name : List Char} {h h' : Host}

theorem Frozen.refl (t : FileTree) (dir : Location) : Frozen t dir t :=
  ⟨fun _ _ => rfl, fun _ _ _ => Iff.rfl⟩

theorem Frozen.find (hfrozen : Frozen t dir t') (hp : t.Avoids cwd dir p) :
    t'.find cwd p = t.find cwd p :=
  find_congr fun x hx => hfrozen.outside x (hp x hx)

theorem Frozen.isFile (hfrozen : Frozen t dir t') (hp : t.Avoids cwd dir p) :
    t'.isFile cwd p = t.isFile cwd p := by
  rw [FileTree.isFile, FileTree.isFile, hfrozen.find hp]

theorem Frozen.read (hfrozen : Frozen t dir t') (hp : t.Avoids cwd dir p) :
    t'.read cwd p = t.read cwd p := by
  rw [FileTree.read, FileTree.read, hfrozen.find hp]

/-- What a write does to the host besides the files. -/
theorem host_of_writeAtomically {target : Path}
    (hwrite : writeAtomically h target content = (.ok (), h')) :
    h'.directory = h.directory ∧ h'.processId = h.processId := by
  obtain ⟨_, _, _, _, _, -, -, -, -, -, rfl⟩ := exists_of_writeAtomically hwrite
  exact ⟨rfl, rfl⟩

section Writing

variable (hset : Setting t cwd dir source staging) (hcwd : h.directory = cwd)
  (hfrozen : Frozen t dir h.files) (hname : p.fileName? = some name)
  (hwrite : writeAtomically h (staging.join ⟨name⟩) content = (.ok (), h'))
include hset hcwd hfrozen hname hwrite

/-- What a copy that is written does to a tree that has changed in the staging directory only. -/
theorem get?_of_written :
    h.files.get? (dir ++ [name]) ≠ some .directory ∧
      h.files.get? (dir ++ [temporaryName name h.processId h.writes]) ≠ some .directory ∧
      ∃ runnable, ∀ l, h'.files.get? l =
        if l = dir ++ [name] then some (.file content runnable)
        else if l = dir ++ [temporaryName name h.processId h.writes] then none
        else h.files.get? l := by
  refine FileTree.get?_of_writeAtomically ?_ ?_ (Path.isPlainName_of_fileName? hname) hwrite
  · rw [hcwd]
    exact find_of_sameWays hfrozen.ways hset.directory
  · exact fun target hm => hset.unlinked _ target ((hfrozen.ways _ _ (.inr rfl)).2 hm)

theorem Frozen.write : Frozen t dir h'.files := by
  obtain ⟨hover, hfree, runnable, hget⟩ := get?_of_written hset hcwd hfrozen hname hwrite
  have hneither : ∀ {m e}, h.files.get? (dir ++ [m]) ≠ some .directory →
      e = .directory ∨ e.isLink = true → h.files.get? (dir ++ [m]) ≠ some e := by
    intro m e hm he hsome
    cases e with
    | file => rcases he with he | he <;> cases he
    | directory => exact hm hsome
    | link target => exact hset.unlinked m target ((hfrozen.ways _ _ (.inr rfl)).2 hsome)
  refine ⟨fun l hl => ?_, fun l e he => (hfrozen.ways l e he).trans ?_⟩
  · rw [hget, if_neg, if_neg, hfrozen.outside l hl]
    · rintro rfl
      exact hl (Location.inside_concat dir _)
    · rintro rfl
      exact hl (Location.inside_concat dir _)
  · rw [hget]
    split
    · rename_i hl
      subst hl
      refine iff_of_false (hneither hover he) fun hfile => ?_
      cases hfile
      rcases he with he | he <;> cases he
    · split
      · rename_i hl
        subst hl
        exact iff_of_false (hneither hfree he) fun hnone => by cases hnone
      · exact Iff.rfl

end Writing

/-! ### Renamed entries -/

/-- What an entry is renamed to. It keeps its name if it leads to no file, or if it names a neighbour
by the name of the file. -/
def newName? (t : FileTree) (cwd : Location) (p : Path) (e : String) : Option String :=
  if t.isFile cwd (entryPath p e) then
    (entryPath p e).fileName?.bind fun name =>
      if namesSibling e name then none else some (String.ofList ('.' :: '/' :: name))
  else none

/-- What the entries of a source are renamed to. -/
def renamesFor (t : FileTree) (cwd : Location) (p : Path) (entries : List String) :
    SortedMap String :=
  entries.foldl (fun renames e =>
    if t.isFile cwd (entryPath p e) then renameTo renames e (entryPath p e) else renames) ∅

theorem renameTo_congr (renames : SortedMap String) (e : String)
    (hp : p.fileName? = copy.fileName?) : renameTo renames e p = renameTo renames e copy := by
  unfold renameTo
  rw [hp]

theorem get?_renameStep (renames : SortedMap String) (e k : String) :
    (if t.isFile cwd (entryPath p e) then renameTo renames e (entryPath p e) else renames).get? k =
      if k = e then (newName? t cwd p k).or (renames.get? k) else renames.get? k := by
  unfold renameTo newName?
  by_cases hk : k = e
  · subst hk
    cases t.isFile cwd (entryPath p k) with
    | false => simp
    | true =>
        cases (entryPath p k).fileName? with
        | none => simp
        | some name => cases hs : namesSibling k name <;> simp [SortedMap.get?_insert, hs]
  · cases t.isFile cwd (entryPath p e) with
    | false => simp [hk]
    | true =>
        cases (entryPath p e).fileName? with
        | none => simp [hk]
        | some name => cases hs : namesSibling e name <;> simp [SortedMap.get?_insert, hk, hs]

/-- What an entry is called in a copy. -/
theorem renamed_renamesFor {entries : List String} {e : String} (he : e ∈ entries) :
    renamed (renamesFor t cwd p entries) e = (newName? t cwd p e).getD e := by
  have hfold : ∀ (entries : List String) (renames : SortedMap String),
      (entries.foldl (fun renames e => if t.isFile cwd (entryPath p e) then
        renameTo renames e (entryPath p e) else renames) renames).get? e =
      if e ∈ entries then (newName? t cwd p e).or (renames.get? e) else renames.get? e := by
    intro entries
    induction entries with
    | nil => exact fun renames => rfl
    | cons e' entries ih =>
        intro renames
        rw [List.foldl_cons, ih, get?_renameStep]
        by_cases hhead : e = e'
        · subst hhead
          rw [if_pos rfl, if_pos List.mem_cons_self]
          split
          · cases newName? t cwd p e <;> rfl
          · rfl
        · rw [if_neg hhead]
          simp [hhead]
  rw [renamed, renamesFor, hfold, if_pos he]
  exact congrArg (Option.getD · e) (Option.or_none ..)

/-! ### What has been read and written -/

/-- Whether a path leads to a file that has been met, by a name. -/
def Met (t : FileTree) (cwd : Location) (s : Progress) (p : Path) : Prop :=
  ∃ l content runnable name, t.find cwd p = .ok (l, .file content runnable) ∧ l.path ∈ s.met ∧
    p.fileName? = some name

/-- What has been read: sources at places that the chain to them has not passed. -/
def ReadRight (t : FileTree) (cwd : Location) (source key p : Path) : Prop :=
  ∃ visited l content runnable name, Spelled t cwd source visited p ∧
    t.find cwd p = .ok (l, .file content runnable) ∧ l ∉ visited ∧ key = l.path ∧
    p.fileName? = some name

/-- What has been written: the renamed content of a source all of whose entries have been met. -/
def WrittenRight (t : FileTree) (cwd : Location) (s : Progress) (p : Path) (content : Bytes) : Prop :=
  ∃ before, t.read cwd p = .ok before ∧
    content = copyContent before (renamesFor t cwd p (extendsEntries before)) ∧
    ∀ e ∈ extendsEntries before, t.isFile cwd (entryPath p e) = true → Met t cwd s (entryPath p e)

/-- What has been read and written, and what stands in the staging directory: what stood there, or
copies. Copies stay unless a temporary file has their name. -/
structure Coherent (t : FileTree) (cwd dir : Location) (source : Path) (process : Nat)
    (s : Progress) : Prop where
  directory : s.host.directory = cwd
  processId : s.host.processId = process
  frozen : Frozen t dir s.host.files
  met : s.met = s.readKeys
  read : ∀ key p, .read key p ∈ s.log → ReadRight t cwd source key p
  write : ∀ key p content, .write key p content ∈ s.log →
    .read key p ∈ s.log ∧ WrittenRight t cwd s p content
  inside : ∀ l e, Location.Inside dir l → s.host.files.get? l = some e → t.get? l = some e ∨
    ∃ key p name content runnable, .write key p content ∈ s.log ∧ p.fileName? = some name ∧
      l = dir ++ [name] ∧ e = .file content runnable
  kept : Unclashing t cwd source process → ∀ key p content name, .write key p content ∈ s.log →
    p.fileName? = some name → ∃ key' p' content' runnable, .write key' p' content' ∈ s.log ∧
      p'.fileName? = some name ∧ s.host.files.get? (dir ++ [name]) = some (.file content' runnable)

variable {process : Nat} {s s' : Progress} {task : Task}

theorem Met.mono (hmet : Met t cwd s p) (h : s.met ⊆ s'.met) : Met t cwd s' p := by
  obtain ⟨l, content, runnable, name, hfind, hl, hname⟩ := hmet
  exact ⟨l, content, runnable, name, hfind, h hl, hname⟩

theorem WrittenRight.mono (hw : WrittenRight t cwd s p content) (h : s.met ⊆ s'.met) :
    WrittenRight t cwd s' p content := by
  obtain ⟨before, hread, hcontent, hentries⟩ := hw
  exact ⟨before, hread, hcontent, fun e he hfile => (hentries e he hfile).mono h⟩

/-- A staging begins coherently. -/
theorem coherent_start (hcwd : h.directory = cwd) (hprocess : h.processId = process)
    (hfiles : h.files = t) : Coherent t cwd dir source process ⟨h, [], []⟩ where
  directory := hcwd
  processId := hprocess
  frozen := hfiles ▸ .refl _ dir
  met := rfl
  read := fun _ _ hmem => absurd hmem List.not_mem_nil
  write := fun _ _ _ hmem => absurd hmem List.not_mem_nil
  inside := fun _ _ _ he => .inl (hfiles ▸ he)
  kept := fun _ _ _ _ _ hmem => absurd hmem List.not_mem_nil

/-- A source that is read keeps all coherent. -/
theorem Coherent.reading (hs : Coherent t cwd dir source process s)
    (hright : ReadRight t cwd source (sourceKey s.host p) p) :
    Coherent t cwd dir source process (s.reading p) where
  directory := hs.directory
  processId := hs.processId
  frozen := hs.frozen
  met := congrArg (sourceKey s.host p :: ·) hs.met
  read := by
    intro key q hmem
    rcases List.mem_cons.1 hmem with hread | hmem
    · cases hread
      exact hright
    · exact hs.read key q hmem
  write := by
    intro key q content hmem
    rcases List.mem_cons.1 hmem with hread | hmem
    · cases hread
    · obtain ⟨hread, hright⟩ := hs.write key q content hmem
      exact ⟨List.mem_cons_of_mem _ hread, hright.mono (List.subset_cons_self _ _)⟩
  inside := by
    intro l e hl he
    rcases hs.inside l e hl he with he | ⟨key, q, name, content, runnable, hmem, hq⟩
    · exact .inl he
    · exact .inr ⟨key, q, name, content, runnable, List.mem_cons_of_mem _ hmem, hq⟩
  kept := by
    intro hunclashing key q content name hmem hq
    rcases List.mem_cons.1 hmem with hread | hmem
    · cases hread
    · obtain ⟨key', q', content', runnable, hmem', hq'⟩ := hs.kept hunclashing key q content name hmem hq
      exact ⟨key', q', content', runnable, List.mem_cons_of_mem _ hmem', hq'⟩

/-- A copy that is written keeps all coherent. -/
theorem Coherent.writing (hset : Setting t cwd dir source staging)
    (hs : Coherent t cwd dir source process s) {key : Path} (hread : .read key p ∈ s.log)
    (hname : p.fileName? = some name) (hright : WrittenRight t cwd s p content)
    (hwrite : writeAtomically s.host (staging.join ⟨name⟩) content = (.ok (), h)) :
    Coherent t cwd dir source process (s.writing key p content h) := by
  obtain ⟨-, -, runnable, hget⟩ := get?_of_written hset hs.directory hs.frozen hname hwrite
  obtain ⟨hdirectory, hprocess⟩ := host_of_writeAtomically hwrite
  have hnew : Event.write key p content ∈ (s.writing key p content h).log := List.mem_cons_self
  refine ⟨hdirectory.trans hs.directory, hprocess.trans hs.processId,
    hs.frozen.write hset hs.directory hname hwrite, hs.met, ?read, ?write, ?inside, ?kept⟩
  case read =>
    intro key' q hmem
    rcases List.mem_cons.1 hmem with hwritten | hmem
    · cases hwritten
    · exact hs.read key' q hmem
  case write =>
    intro key' q content' hmem
    rcases List.mem_cons.1 hmem with hwritten | hmem
    · cases hwritten
      exact ⟨List.mem_cons_of_mem _ hread, hright⟩
    · obtain ⟨hread', hright'⟩ := hs.write key' q content' hmem
      exact ⟨List.mem_cons_of_mem _ hread', hright'⟩
  case inside =>
    intro l e hl he
    change h.files.get? l = some e at he
    rw [hget] at he
    split at he
    · rename_i hplace
      exact .inr ⟨key, p, name, content, runnable, hnew, hname, hplace, (Option.some.inj he).symm⟩
    · split at he
      · cases he
      · rcases hs.inside l e hl he with he | ⟨key', q, name', content', runnable', hmem, hq⟩
        · exact .inl he
        · exact .inr ⟨key', q, name', content', runnable', List.mem_cons_of_mem _ hmem, hq⟩
  case kept =>
    intro hunclashing key' q content' name' hmem hq
    change ∃ _ _ _ _, _ ∧ _ ∧ h.files.get? _ = _
    by_cases hsame : name' = name
    · subst hsame
      exact ⟨key, p, content, runnable, hnew, hname, by rw [hget, if_pos rfl]⟩
    · rcases List.mem_cons.1 hmem with hwritten | hmem
      · cases hwritten
        exact absurd (Option.some.inj (hq.symm.trans hname)) hsame
      · obtain ⟨key'', q', content'', runnable', hmem', hq', hkept⟩ :=
          hs.kept hunclashing key' q content' name' hmem hq
        obtain ⟨visited, -, -, -, -, hspelled, -⟩ := hs.read _ _ (hs.write _ _ _ hmem').1
        have htemporary : name' ≠ temporaryName name s.host.processId s.host.writes := by
          rintro rfl
          rw [hs.processId] at hq'
          exact hunclashing visited q' hspelled _ _ hq'
        refine ⟨key'', q', content'', runnable', List.mem_cons_of_mem _ hmem', hq', ?_⟩
        rw [hget, if_neg (by simpa using hsame), if_neg (by simpa using htemporary), hkept]

/-! ### Runs -/

/-- What has to be known of a task: that a chain spells its path whose configurations have been met,
and what has been done of it. -/
inductive Task.Valid (t : FileTree) (cwd : Location) (source : Path) (s : Progress) : Task → Prop
  | copy {visited : List Location} {p : Path} (hspelled : Spelled t cwd source visited p)
      (hvisited : ∀ l ∈ visited, l.path ∈ s.met) : Valid t cwd source s (.copy p)
  | follow {key p : Path} {content : Bytes} {done entries : List String}
      {visited : List Location} {l : Location} {runnable : Bool} {name : List Char}
      (hspelled : Spelled t cwd source visited p)
      (hfind : t.find cwd p = .ok (l, .file content runnable)) (hnew : l ∉ visited)
      (hvisited : ∀ x ∈ l :: visited, x.path ∈ s.met) (hkey : key = l.path)
      (hname : p.fileName? = some name) (hread : .read key p ∈ s.log)
      (hentries : extendsEntries content = done ++ entries)
      (hdone : ∀ e ∈ done, t.isFile cwd (entryPath p e) = true → Met t cwd s (entryPath p e)) :
      Valid t cwd source s (.follow key p content entries (renamesFor t cwd p done))

/-- The path of the source that a task is about. -/
def Task.path : Task → Path
  | .copy p => p
  | .follow _ p _ _ _ => p

theorem read_of_find {l : Location} {runnable : Bool}
    (hfind : t.find cwd p = .ok (l, .file content runnable)) : t.read cwd p = .ok content := by
  rw [FileTree.read, hfind]
  rfl

theorem Coherent.sourceKey_eq (hset : Setting t cwd dir source staging)
    (hs : Coherent t cwd dir source process s) {visited : List Location} {l : Location} {e : Entry}
    (hspelled : Spelled t cwd source visited p) (hfind : t.find cwd p = .ok (l, e)) :
    sourceKey s.host p = l.path := by
  refine sourceKey_of_find (e := e) ?_
  rw [hs.directory, hs.frozen.find (hset.apart visited p hspelled), hfind]

/-- The places where something is found are met as their keys are. -/
theorem Coherent.hasMet_iff (hset : Setting t cwd dir source staging)
    (hs : Coherent t cwd dir source process s) {visited : List Location} {l : Location} {e : Entry}
    (hspelled : Spelled t cwd source visited p) (hfind : t.find cwd p = .ok (l, e)) :
    s.hasMet p = true ↔ l.path ∈ s.met := by
  have hkey := hs.sourceKey_eq hset hspelled hfind
  rw [Progress.hasMet, List.any_eq_true, hkey]
  constructor
  · rintro ⟨key, hkey, hsame⟩
    have hread := hkey
    rw [hs.met] at hread
    obtain ⟨event, hevent, hreadKey⟩ := List.mem_filterMap.1 hread
    cases event with
    | write => cases hreadKey
    | read key' q =>
        cases hreadKey
        obtain ⟨_, l', _, _, _, -, hfind', -, rfl, -⟩ := hs.read key q hevent
        have hl' := isProper_of_find hfind' hset.proper
        rwa [(Location.same_path_iff hl' (isProper_of_find hfind hset.proper)).1 hsame] at hkey
  · exact fun hmem => ⟨l.path, hmem, by simp [Path.same]⟩

/-- What a copy that has been started has to do. -/
theorem Task.Valid.start (hset : Setting t cwd dir source staging)
    (hs : Coherent t cwd dir source process s) (hvalid : (Task.copy p).Valid t cwd source s)
    (hname : p.fileName? = some name) (hfresh : s.hasMet p = false)
    (hread : s.host.files.read s.host.directory p = .ok content) :
    ReadRight t cwd source (sourceKey s.host p) p ∧
      (Task.follow (sourceKey s.host p) p content (extendsEntries content) ∅).Valid t cwd source
        (s.reading p) := by
  cases hvalid with
  | @copy visited _ hspelled hvisited =>
      have hapart := hset.apart visited p hspelled
      rw [hs.directory, hs.frozen.read hapart] at hread
      obtain ⟨l, runnable, hfind⟩ := exists_find_of_read hread
      have hkey := hs.sourceKey_eq hset hspelled hfind
      have hnew : l ∉ visited := by
        intro hl
        have hmet := (hs.hasMet_iff hset hspelled hfind).2 (hvisited l hl)
        cases hmet.symm.trans hfresh
      refine ⟨⟨visited, l, content, runnable, name, hspelled, hfind, hnew, hkey, hname⟩, ?_⟩
      show (Task.follow _ p content _ (renamesFor t cwd p [])).Valid t cwd source (s.reading p)
      refine .follow hspelled hfind hnew (List.forall_mem_cons.2 ⟨?_, fun x hx => ?_⟩) hkey hname
        List.mem_cons_self rfl fun e he => absurd he List.not_mem_nil
      · rw [← hkey]
        exact List.mem_cons_self
      · exact List.mem_cons_of_mem _ (hvisited x hx)

/-- What a copy has to do for an entry that leads to a file. -/
theorem Task.Valid.first {key : Path} {entry : String} {entries : List String}
    {renames : SortedMap String}
    (hvalid : (Task.follow key p content (entry :: entries) renames).Valid t cwd source s) :
    (Task.copy (entryPath p entry)).Valid t cwd source s := by
  cases hvalid with
  | follow hspelled hfind hnew hvisited hkey hname hread hentries hdone =>
      refine .copy (.entry hspelled hfind hname hnew ?_) hvisited
      rw [hentries]
      exact List.mem_append_right _ List.mem_cons_self

/-- What is left to be done when an entry has been followed, or skipped. -/
theorem Task.Valid.next {key : Path} {entry : String} {entries : List String}
    {renames : SortedMap String}
    (hvalid : (Task.follow key p content (entry :: entries) renames).Valid t cwd source s)
    (hmet : s.met ⊆ s'.met) (hlog : s.log ⊆ s'.log)
    (hentry : t.isFile cwd (entryPath p entry) = true → Met t cwd s' (entryPath p entry)) :
    (Task.follow key p content entries
      (if t.isFile cwd (entryPath p entry) then renameTo renames entry (entryPath p entry)
        else renames)).Valid t cwd source s' := by
  cases hvalid with
  | @follow _ _ _ done _ _ _ _ _ hspelled hfind hnew hvisited hkey hname hread hentries hdone =>
      have hstep : renamesFor t cwd p (done ++ [entry]) =
          if t.isFile cwd (entryPath p entry) then
            renameTo (renamesFor t cwd p done) entry (entryPath p entry)
          else renamesFor t cwd p done := by
        rw [renamesFor, List.foldl_append]
        rfl
      rw [← hstep]
      refine .follow hspelled hfind hnew (fun x hx => hmet (hvisited x hx)) hkey hname (hlog hread) ?_ ?_
      · rw [hentries, List.append_assoc, List.singleton_append]
      · intro e he hfile
        rcases List.mem_append.1 he with he | he
        · exact (hdone e he hfile).mono hmet
        · obtain rfl := List.mem_singleton.1 he
          exact hentry hfile

/-- **A copy that succeeds keeps all coherent.** What it is a copy of has been met then. -/
theorem Runs.coherent (hset : Setting t cwd dir source staging) {result : Except Error Path}
    (hruns : Runs staging task s result s') (hresult : result = .ok copy)
    (hs : Coherent t cwd dir source process s) (hvalid : task.Valid t cwd source s) :
    Coherent t cwd dir source process s' ∧
      (t.isFile cwd task.path = true → Met t cwd s' task.path) ∧
      ∃ name, task.path.fileName? = some name ∧ copy = staging.join ⟨name⟩ := by
  induction hruns generalizing copy with
  | nameless | unreadable | failed | unwritable => cases hresult
  | @met p s name hname hmet =>
      cases hresult
      refine ⟨hs, fun hfile => ?_, name, hname, rfl⟩
      cases hvalid with
      | copy hspelled =>
          obtain ⟨l, content, runnable, hfind⟩ := exists_find_of_isFile hfile
          exact ⟨l, content, runnable, name, hfind, (hs.hasMet_iff hset hspelled hfind).1 hmet, hname⟩
  | @start p s s' name content result hname hfresh hread more ih =>
      obtain ⟨hright, hfollow⟩ := hvalid.start hset hs hname hfresh hread
      obtain ⟨hs', -, hcopy⟩ := ih hresult (hs.reading hright) hfollow
      obtain ⟨-, l, content', runnable, -, -, hfind, -, hkey, -⟩ := hright
      refine ⟨hs', fun _ => ⟨l, content', runnable, name, hfind, ?_, hname⟩, hcopy⟩
      exact hkey ▸ more.met_subset List.mem_cons_self
  | @skipped key p content entry entries renames s s' result hfile more ih =>
      have hno : t.isFile cwd (entryPath p entry) = false := by
        cases hvalid.first with
        | copy hspelled =>
            rwa [hs.directory, hs.frozen.isFile (hset.apart _ _ hspelled)] at hfile
      have hnext := hvalid.next (List.Subset.refl _) (List.Subset.refl _)
        (fun hfile => by cases hno.symm.trans hfile)
      rw [hno, if_neg Bool.false_ne_true] at hnext
      exact ih hresult hs hnext
  | @followed key p copy' content entry entries renames s s₁ s' result hfile first more ihFirst ihMore =>
      obtain ⟨hs₁, hmet, name, hname, rfl⟩ := ihFirst rfl hs hvalid.first
      have hyes : t.isFile cwd (entryPath p entry) = true := by
        cases hvalid.first with
        | copy hspelled =>
            rwa [hs.directory, hs.frozen.isFile (hset.apart _ _ hspelled)] at hfile
      have hnext := hvalid.next first.met_subset first.log_subset hmet
      have hrename : renameTo renames entry (entryPath p entry) =
          renameTo renames entry (staging.join ⟨name⟩) := by
        refine renameTo_congr _ _ ?_
        rw [Path.fileName?_join (Path.isPlainName_of_fileName? hname)]
        exact hname
      rw [hyes, if_pos rfl, hrename] at hnext
      exact ihMore hresult hs₁ hnext
  | @written key p content renames s name h hname hwrite =>
      cases hresult
      cases hvalid with
      | @follow _ _ _ done _ _ l runnable _ hspelled hfind _ hvisited _ _ hread hentries hdone =>
          rw [List.append_nil] at hentries
          subst hentries
          have hright : WrittenRight t cwd s p
              (copyContent content (renamesFor t cwd p (extendsEntries content))) :=
            ⟨content, read_of_find hfind, rfl, hdone⟩
          refine ⟨hs.writing hset hread hname hright hwrite, fun _ => ?_, name, hname, rfl⟩
          exact ⟨l, content, runnable, name, hfind, hvisited l List.mem_cons_self, hname⟩

/-! ### Stagings -/

/-- What has come of a staging that succeeds: the source has been met, and copies have been written of
all that has been read. -/
structure Staged (t : FileTree) (cwd dir : Location) (source : Path) (process : Nat)
    (s : Progress) : Prop extends Coherent t cwd dir source process s where
  first : Met t cwd s source
  copied : ∀ key p, .read key p ∈ s.log → ∃ content, .write key p content ∈ s.log

/-- **What has come of a staging that succeeds.** -/
theorem Stages.staged {s : Progress} (hmade : h.files.makeDirectories h.directory staging = (t, .ok ()))
    (hset : Setting t h.directory dir source staging) (hstages : Stages h source staging (.ok copy) s) :
    Staged t h.directory dir source h.processId s ∧
      ∃ name, source.fileName? = some name ∧ copy = staging.join ⟨name⟩ := by
  cases hstages with
  | made hmade' hruns =>
      cases hmade.symm.trans hmade'
      have hvalid : (Task.copy source).Valid t h.directory source ⟨{ h with files := t }, [], []⟩ :=
        .copy .source fun l hl => absurd hl List.not_mem_nil
      obtain ⟨hs, hmet, hcopy⟩ := hruns.coherent hset rfl (coherent_start rfl rfl rfl) hvalid
      have hfile : t.isFile h.directory source = true := by
        cases hruns with
        | met _ hnone => cases hnone
        | start _ _ hread =>
            obtain ⟨l, runnable, hfind⟩ := exists_find_of_read hread
            exact isFile_of_find hfind
      refine ⟨⟨hs, hmet hfile, fun key p hread => ?_⟩, hcopy⟩
      · rcases (hruns.exists_write rfl).1 key p hread with hread | hwrite
        · exact absurd hread List.not_mem_nil
        · exact hwrite

end StandardsGate.Staging
