import StandardsGate.Proofs.Staging.Graph

/-!
Where the entries of copies lead.

In a copy an entry that led to a file names that file's name in the staging directory, in one way or
another. So it leads to a copy if some source of that name has been read, by whatever path. A source
that has been met is not read again, so this need be no source of the same path.

Main definitions:

* `Staging.LeadsToCopy` — an entry that leads to a copy from the staging directory;
* `Staging.OneNamed` — every file is reached under one name.

Main results:

* `Staging.find_newName?` — where an entry of a copy leads;
* `Staging.leadsToCopy_of_written` — **an entry of a copy leads to a copy exactly if a source of that
  name has been read**.
-/

namespace StandardsGate.Staging

open FileTree

variable {t t' : FileTree} {cwd dir l x : Location} {source staging p copy : Path}
  {content : Bytes} {runnable : Bool} {name : List Char} {e : String} {entry : Entry}

/-! ### Neighbours -/

/-- A text that names an entry of a directory, behind segments that count for nothing, leads to it. -/
theorem find_neighbour {q : Path} {idle : List (List Char)} (hdir : t'.get? dir = some .directory)
    (hlink : ∀ target, t'.get? (dir ++ [name]) ≠ some (.link target))
    (hname : Path.IsPlainName name) (hshort : byteCount name ≤ nameLimit) (hq : Speakable q)
    (hrelative : q.isAbsolute = false) (hsplit : Text.splitOn '/' q.chars = idle ++ [name])
    (hidle : ∀ s ∈ idle, Path.isIdle s = true) :
    t'.find dir q = .ok (x, entry) ↔ x = dir ++ [name] ∧ t'.get? (dir ++ [name]) = some entry := by
  have hskip : t'.walkFrom true linkLimit dir (idle ++ [name]) =
      t'.walkFrom true linkLimit dir [name] := by
    have hleads := (Leads.here linkLimit dir).idle_append hdir hidle
    rw [List.append_nil] at hleads
    exact hleads.walkFrom_append (List.cons_ne_nil _ _)
  have hplace : (t'.get? (dir ++ [name])).any Entry.isLink = false := by
    cases he : t'.get? (dir ++ [name]) with
    | none => rfl
    | some e =>
        cases e with
        | file | directory => rfl
        | link target => exact absurd he (hlink target)
  have hstart : linkStart dir q = dir := by
    rw [linkStart, hrelative, if_neg Bool.false_ne_true]
  rw [find_eq_ok_iff_walk, walk_eq_ok_iff, and_iff_right hq, hstart, hsplit, hskip,
    walkFrom_last hdir hname.1 hshort hplace, placeAt]
  cases t'.get? (dir ++ [name]) with
  | none => simp
  | some e => simp [eq_comm]

/-- An entry that names a neighbour and leads to a file is a text of that name, behind segments that
count for nothing. -/
theorem splitOn_of_namesSibling
    (hfind : t.find cwd (entryPath p e) = .ok (l, .file content runnable))
    (hname : (entryPath p e).fileName? = some name) (hsibling : namesSibling e name = true) :
    (Path.ofString e).isAbsolute = false ∧
      ∃ idle, Text.splitOn '/' (Path.ofString e).chars = idle ++ [name] ∧
        ∀ s ∈ idle, Path.isIdle s = true := by
  have hplain := Path.isPlainName_of_fileName? hname
  obtain ⟨hrelative, hsteps⟩ := (Path.filter_components_eq_iff hplain.1).1 (beq_iff_eq.1 hsibling)
  obtain ⟨init, _, _, _, hsplit, -⟩ := exists_last_of_find hfind hname
  obtain ⟨front, -, hfront⟩ := Path.exists_splitOn_join (p.parent?.getD ⟨['.']⟩)
  -- the path of the entry ends with the segments of the entry
  have hlast : (Text.splitOn '/' (Path.ofString e).chars).getLast? = some name := by
    have hwhole := (hfront _ hrelative).symm.trans hsplit
    have hne : Text.splitOn '/' (Path.ofString e).chars ≠ [] := by simp
    have h := congrArg List.getLast? hwhole
    rwa [List.getLast?_append_of_ne_nil _ hne, List.getLast?_concat] at h
  obtain ⟨idle, hidle⟩ := List.getLast?_eq_some_iff.1 hlast
  refine ⟨hrelative, idle, hidle, ?_⟩
  have hfilter : idle.filter (fun s => !Path.isIdle s) = [] := by
    have hcount : (Path.ofString e).steps =
        idle.filter (fun s => !Path.isIdle s) ++ [name] := by
      rw [Path.steps, hidle, List.filter_append, List.filter_cons_of_pos (by simp [hplain.1.1]),
        List.filter_nil]
    rw [hsteps] at hcount
    exact (List.append_left_eq_self.1 hcount.symm)
  simpa using List.filter_eq_nil_iff.1 hfilter

/-- **Where an entry of a copy leads** that led to a file: to what stands under the name of that file
in the staging directory. -/
theorem find_newName? (hfind : t.find cwd (entryPath p e) = .ok (l, .file content runnable))
    (hname : (entryPath p e).fileName? = some name) (hdir : t'.get? dir = some .directory)
    (hlink : ∀ target, t'.get? (dir ++ [name]) ≠ some (.link target)) :
    t'.find dir (.ofString ((newName? t cwd p e).getD e)) = .ok (x, entry) ↔
      x = dir ++ [name] ∧ t'.get? (dir ++ [name]) = some entry := by
  have hplain := Path.isPlainName_of_fileName? hname
  obtain ⟨hshort, hnull⟩ := speakable_name_of_find hfind hname
  rw [newName?, isFile_of_find hfind, if_pos rfl, hname, Option.bind_some]
  cases hsibling : namesSibling e name with
  | true =>
      obtain ⟨hrelative, idle, hsplit, hidle⟩ := splitOn_of_namesSibling hfind hname hsibling
      have hne : (Path.ofString e).chars ≠ [] := by
        intro hnil
        rw [hnil] at hsplit
        have hlast := congrArg List.getLast? hsplit
        rw [List.getLast?_concat] at hlast
        obtain rfl : [] = name := Option.some.inj hlast
        cases hplain.1.1
      exact find_neighbour hdir hlink hplain hshort
        (speakable_of_entryPath (find_eq_ok_iff.1 hfind).1 hne) hrelative hsplit hidle
  | false =>
      have hchars : (Path.ofString (String.ofList ('.' :: '/' :: name))).chars = '.' :: '/' :: name :=
        String.toList_ofList
      rw [if_neg Bool.false_ne_true, Option.getD_some]
      have hidle : ∀ s ∈ [['.']], Path.isIdle s = true := by simp [Path.isIdle]
      have hbytes : byteCount ('.' :: '/' :: name) = 2 + byteCount name :=
        byteCount_append ['.', '/'] name
      have hlimit : 2 + nameLimit ≤ pathLimit := by decide
      have hspeakable : Speakable (.ofString (String.ofList ('.' :: '/' :: name))) := by
        rw [Speakable, hchars, hbytes]
        refine ⟨?_, List.cons_ne_nil _ _, by omega⟩
        simp [hnull]
      have hsplit : Text.splitOn '/' ('.' :: '/' :: name) = [['.']] ++ [name] := by
        rw [← hplain.splitOn]
        exact Text.splitOn_append_cons '/' ['.'] name
      exact find_neighbour hdir hlink hplain hshort hspeakable
        (by rw [Path.isAbsolute, hchars]; rfl) (by rw [hchars, hsplit]) hidle

/-! ### Entries of copies -/

variable {process : Nat} {s : Progress}

/-- Whether an entry leads to a copy from the staging directory. -/
def LeadsToCopy (dir : Location) (s : Progress) (e : String) : Prop :=
  ∃ key p name content runnable, .write key p content ∈ s.log ∧ p.fileName? = some name ∧
    s.host.files.find dir (.ofString e) = .ok (dir ++ [name], .file content runnable)

/-- Whether every file that chains lead to is reached under one name. -/
def OneNamed (t : FileTree) (cwd : Location) (source : Path) : Prop :=
  ∀ l name name', ReachedAs t cwd source l name → ReachedAs t cwd source l name' → name = name'

theorem Coherent.get?_directory (hset : Setting t cwd dir source staging)
    (hs : Coherent t cwd dir source process s) : s.host.files.get? dir = some .directory :=
  (hs.frozen.ways _ _ (.inl rfl)).1 (get?_of_find hset.directory)

theorem Coherent.unlinked (hset : Setting t cwd dir source staging)
    (hs : Coherent t cwd dir source process s) (name : List Char) (target : Path) :
    s.host.files.get? (dir ++ [name]) ≠ some (.link target) :=
  fun hlink => hset.unlinked name target ((hs.frozen.ways _ _ (.inr rfl)).2 hlink)

/-- A copy stands under the name of every source that has been read. -/
theorem Staged.exists_copy (hs : Staged t cwd dir source process s)
    (hunclashing : Unclashing t cwd source process) {key : Path} (hread : .read key p ∈ s.log)
    (hname : p.fileName? = some name) :
    ∃ key' p' content runnable, .write key' p' content ∈ s.log ∧ p'.fileName? = some name ∧
      s.host.files.get? (dir ++ [name]) = some (.file content runnable) := by
  obtain ⟨content, hwrite⟩ := hs.copied key p hread
  exact hs.kept hunclashing key p content name hwrite hname

/-- An entry of a copy leads to a copy exactly if a source of that name has been read. -/
theorem Staged.leadsToCopy_iff (hset : Setting t cwd dir source staging)
    (hunclashing : Unclashing t cwd source process) (hs : Staged t cwd dir source process s)
    (hfind : t.find cwd (entryPath p e) = .ok (l, .file content runnable))
    (hname : (entryPath p e).fileName? = some name) :
    LeadsToCopy dir s ((newName? t cwd p e).getD e) ↔
      ∃ key q, .read key q ∈ s.log ∧ q.fileName? = some name := by
  have hleads : ∀ {x entry}, s.host.files.find dir (.ofString ((newName? t cwd p e).getD e)) =
      .ok (x, entry) ↔ x = dir ++ [name] ∧ s.host.files.get? (dir ++ [name]) = some entry :=
    find_newName? hfind hname (hs.get?_directory hset) (hs.unlinked hset name)
  constructor
  · rintro ⟨key, q, name', content', runnable', hwrite, hq, hfound⟩
    obtain ⟨hplace, -⟩ := hleads.1 hfound
    obtain rfl : name' = name := by simpa using hplace
    exact ⟨key, q, (hs.write key q content' hwrite).1, hq⟩
  · rintro ⟨key, q, hread, hq⟩
    obtain ⟨key', q', content', runnable', hwrite, hq', hcopy⟩ := hs.exists_copy hunclashing hread hq
    exact ⟨key', q', name, content', runnable', hwrite, hq', hleads.2 ⟨rfl, hcopy⟩⟩

/-- If every file is reached under one name, a source of that name has been read. -/
theorem Staged.exists_read_of_oneNamed (hset : Setting t cwd dir source staging)
    (hnamed : OneNamed t cwd source) (hs : Staged t cwd dir source process s) {key : Path}
    (hwrite : .write key p content ∈ s.log) {before : Bytes} (hread : t.read cwd p = .ok before)
    (he : e ∈ extendsEntries before)
    {content' : Bytes} (hfind : t.find cwd (entryPath p e) = .ok (l, .file content' runnable))
    (hmet : l.path ∈ s.met) (hname : (entryPath p e).fileName? = some name) :
    ∃ key' q, .read key' q ∈ s.log ∧ q.fileName? = some name := by
  obtain ⟨visited, place, before', runnable', _, hspelled, hfind', hnew, -, hname'⟩ :=
    hs.read key p (hs.write key p content hwrite).1
  cases (read_of_find hfind').symm.trans hread
  obtain ⟨q, hq, visited', _, _, name', hspelled', hfound, -, hname''⟩ :=
    hs.exists_read hset (isProper_of_find hfind hset.proper) hmet
  obtain rfl : name' = name := hnamed l name' name ⟨_, _, _, _, hspelled', hfound, hname''⟩
    ⟨_, _, _, _, .entry hspelled hfind' hname' hnew he, hfind, hname⟩
  exact ⟨l.path, q, hq, hname''⟩

/-- **Where the entries of copies lead.** Every copy is written of a source, its entries being those of
the source under new names. An entry that led to a file leads to a copy from the staging directory
exactly if a source with the name of that file has been read, and so it does whenever every file is
reached under one name. -/
theorem leadsToCopy_of_written {h : Host}
    (hmade : h.files.makeDirectories h.directory staging = (t, .ok ()))
    (hset : Setting t h.directory dir source staging)
    (hunclashing : Unclashing t h.directory source h.processId)
    (hstages : Stages h source staging (.ok copy) s) :
    ∀ key p content, .write key p content ∈ s.log →
      ∃ before renames, t.read h.directory p = .ok before ∧ content = copyContent before renames ∧
        (extendsEntries content = (extendsEntries before).map (renamed renames) ∨
          extendsEntries content = [] ∧ ∃ v, valueOf? before = some v ∧ ¬ v.IsWhole) ∧
        ∀ e ∈ extendsEntries before, t.isFile h.directory (entryPath p e) = true →
          (LeadsToCopy dir s (renamed renames e) ↔
            ∃ key' q, .read key' q ∈ s.log ∧ q.fileName? = (entryPath p e).fileName?) ∧
          (OneNamed t h.directory source → LeadsToCopy dir s (renamed renames e)) := by
  obtain ⟨hs, -⟩ := hstages.staged hmade hset
  intro key p content hwrite
  obtain ⟨-, before, hread, hcontent, hentries⟩ := hs.write key p content hwrite
  refine ⟨before, _, hread, hcontent, hcontent ▸ extendsEntries_copyContent before _, ?_⟩
  intro e he hfile
  obtain ⟨l, _, _, name, hfind, hmet, hname⟩ := hentries e he hfile
  have hiff := hs.leadsToCopy_iff hset hunclashing hfind hname
  rw [renamed_renamesFor he, hname]
  exact ⟨hiff, fun hnamed =>
    hiff.2 (hs.exists_read_of_oneNamed hset hnamed hwrite hread he hfind hmet hname)⟩

theorem unclashing_ringTree : Unclashing (withStaging ringTree) [['w']] "main.json" 1 :=
  unclashing_of_spellings 3 spellings_ringTree (fun q hq => (spelled_ringTree.2 q hq).2.1) 1

/-- Where the entries of the copies of two configurations that extend each other lead. -/
theorem leadsToCopy_of_written_ring :
    ∃ s, Stages (stagingHost ringTree) "main.json" "out" (.ok "out/main.json") s ∧
      ∀ key p content, .write key p content ∈ s.log →
        ∃ before renames, (withStaging ringTree).read [['w']] p = .ok before ∧
          content = copyContent before renames ∧
          (extendsEntries content = (extendsEntries before).map (renamed renames) ∨
            extendsEntries content = [] ∧ ∃ v, valueOf? before = some v ∧ ¬ v.IsWhole) ∧
          ∀ e ∈ extendsEntries before, (withStaging ringTree).isFile [['w']] (entryPath p e) = true →
            (LeadsToCopy [['w'], "out".toList] s (renamed renames e) ↔
              ∃ key' q, .read key' q ∈ s.log ∧ q.fileName? = (entryPath p e).fileName?) ∧
            (OneNamed (withStaging ringTree) [['w']] "main.json" →
              LeadsToCopy [['w'], "out".toList] s (renamed renames e)) := by
  obtain ⟨h', hrun⟩ := run_ringTree
  obtain ⟨s, hstages, -⟩ := exists_stages_of_run hrun
  exact ⟨s, hstages,
    leadsToCopy_of_written (h := stagingHost ringTree) makeDirectories_ringTree setting_ringTree
      unclashing_ringTree hstages⟩

/-! ### A file and a link to it -/

/-- A configuration that extends another one and a link to that one. -/
def linkedTree : FileTree :=
  (((FileTree.empty.put [['w']] .directory).put [['w'], "main.json".toList]
    (.file (Utf8.encode "\x7b\"extends\": [\"base.json\", \"link.json\"]\x7d") false)).put
    [['w'], "base.json".toList] (.file (Utf8.encode "\x7b\x7d") false)).put
    [['w'], "link.json".toList] (.link "base.json")

/-- A staging that succeeds after which an entry of a copy leads to nothing that led to a file: the file
that the link leads to has been met, and is not copied under the name of the link. -/
theorem dangling_linkedTree :
    let done := (stageConfig "main.json" "out").run.run (stagingHost linkedTree)
    done.1.toOption = some "out/main.json" ∧
      (withStaging linkedTree).names [['w'], "out".toList] = [] ∧
      (withStaging linkedTree).isFile [['w']] (entryPath "main.json" "link.json") = true ∧
      (done.2.files.read [['w'], "out".toList] "main.json").toOption.map extendsEntries =
        some ["base.json", "link.json"] ∧
      done.2.files.exists? [['w'], "out".toList] "link.json" = false := by
  decide +kernel

end StandardsGate.Staging
