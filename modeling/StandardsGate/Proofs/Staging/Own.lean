import StandardsGate.Proofs.Staging.Lookup

/-!
The copy that a staging returns.

What a configuration extends is copied before it, and files of one name share one copy. So the copy
of the configuration itself may be written more than once, but its own content is written last. That
holds whatever stands in the staging directory before: copies change nothing outside, and what leads
into that directory still does, or nothing more is written into it.

Main definitions:

* `Staging.Contained` — a host whose files differ from a tree in one directory at most;
* `Staging.IsOpen`, `Staging.IsShut` — whether a path leads to the staging directory, and whether
  nothing can be written into it;
* `Staging.OwnContent` — a content and that of a copy of it.

Main results:

* `Staging.Contained.write` — what one write does;
* `Staging.Runs.contained` — **whatever is copied stays in the staging directory**;
* `Staging.Runs.exists_last_write` — **the copy of a configuration is written last**;
* `stageConfig_own` — **the copy that is returned has the configuration's own content**.
-/

namespace StandardsGate

namespace Staging

open FileTree

/-! ### Hosts on the way -/

/-- Whether the files of a host differ from a tree in one directory at most, and no temporary file of
the process is a link there. -/
structure Contained (t : FileTree) (cwd dir : Location) (process : Nat) (h : Host) : Prop where
  directory : h.directory = cwd
  processId : h.processId = process
  outside : ∀ l, ¬ Location.Inside dir l → h.files.get? l = t.get? l
  unlinked : ∀ name write target,
    h.files.get? (dir ++ [temporaryName name process write]) ≠ some (.link target)

/-- Whether a path leads to the staging directory. -/
def IsOpen (staging : Path) (dir : Location) (h : Host) : Prop :=
  h.files.find h.directory (staging.join ⟨['.']⟩) = .ok (dir, .directory)

/-- Whether nothing can be written into the staging directory. -/
def IsShut (staging : Path) (h : Host) : Prop :=
  ∀ name content h', Path.IsPlainName name →
    writeAtomically h (staging.join ⟨name⟩) content ≠ (.ok (), h')

variable {t : FileTree} {cwd dir : Location} {process : Nat} {staging source p copy : Path}
  {content : Bytes} {name : List Char} {h h' : Host} {task : Task} {s s' : Progress}
  {result : Except Error Path}

theorem Contained.find (hh : Contained t cwd dir process h) (hp : t.Avoids cwd dir p) :
    h.files.find cwd p = t.find cwd p :=
  find_congr fun x hx => hh.outside x (hp x hx)

theorem Contained.isFile (hh : Contained t cwd dir process h) (hp : t.Avoids cwd dir p) :
    h.files.isFile cwd p = t.isFile cwd p := by
  rw [FileTree.isFile, FileTree.isFile, hh.find hp]

section Write

variable (hh : Contained t cwd dir process h) (hopen : IsOpen staging dir h)
  (hname : Path.IsPlainName name)
  (hwrite : writeAtomically h (staging.join ⟨name⟩) content = (.ok (), h'))
include hh hopen hname hwrite

/-- What is found in the staging directory once a copy has been written. -/
theorem Contained.get?_of_write :
    ∃ runnable, ∀ l, h'.files.get? l =
      if l = dir ++ [name] then some (.file content runnable)
      else if l = dir ++ [temporaryName name process h.writes] then none
      else h.files.get? l := by
  obtain ⟨-, -, hget⟩ := FileTree.get?_of_writeAtomically hopen
    (fun target => hh.processId ▸ hh.unlinked name h.writes target) hname hwrite
  exact hh.processId ▸ hget

/-- One write changes the ways of the tree where the copy comes to stand, at most. -/
theorem Contained.sameWaysBut_of_write : SameWaysBut (dir ++ [name]) h.files h'.files :=
  FileTree.sameWaysBut_of_writeAtomically hopen
    (fun target => hh.processId ▸ hh.unlinked name h.writes target) hname hwrite

/-- **What one write does**: the host stays contained, and the staging directory is still open, or it
is shut. -/
theorem Contained.write :
    Contained t cwd dir process h' ∧ (IsOpen staging dir h' ∨ IsShut staging h') := by
  obtain ⟨hdirectory, hprocess⟩ := host_of_writeAtomically hwrite
  obtain ⟨runnable, hget⟩ := hh.get?_of_write hopen hname hwrite
  refine ⟨⟨hdirectory.trans hh.directory, hprocess.trans hh.processId, fun l hl => ?_,
    fun name' write target => ?_⟩, ?_⟩
  · rw [hget, if_neg, if_neg, hh.outside l hl]
    · rintro rfl
      exact hl (Location.inside_concat dir _)
    · rintro rfl
      exact hl (Location.inside_concat dir _)
  · rw [hget]
    split
    · exact nofun
    · split
      · exact nofun
      · exact hh.unlinked name' write target
  · refine Classical.or_iff_not_imp_left.2 fun hlost n content' h'' hn => ?_
    have hways := hh.sameWaysBut_of_write hopen hname hwrite
    exact writeAtomically_of_lost (hdirectory ▸ hopen) hways hlost hn

/-- **Where the copy is found** that has been written: under its name in the staging directory, and by
its path exactly if that directory is open still. -/
theorem Contained.read_of_write :
    ∃ runnable, h'.files.get? (dir ++ [name]) = some (.file content runnable) ∧
      (h'.files.read cwd (staging.join ⟨name⟩) = .ok content ↔
        h'.files.find cwd (staging.join ⟨['.']⟩) = .ok (dir, .directory)) ∧
      (t.Avoids cwd dir (staging.join ⟨['.']⟩) →
        h'.files.read cwd (staging.join ⟨name⟩) = .ok content) := by
  obtain ⟨runnable, hget⟩ := hh.get?_of_write hopen hname hwrite
  obtain ⟨hh', -⟩ := hh.write hopen hname hwrite
  have hcopy := hget (dir ++ [name])
  rw [if_pos rfl] at hcopy
  have hways := hh.sameWaysBut_of_write hopen hname hwrite
  have hread : h'.files.find cwd (staging.join ⟨['.']⟩) = .ok (dir, .directory) →
      h'.files.read cwd (staging.join ⟨name⟩) = .ok content := by
    intro hfound
    obtain ⟨hspeakable, hshort⟩ := FileTree.speakable_of_writeAtomically hopen hname hwrite
    exact read_of_find
      (find_of_beside hfound (beside_join rfl rfl hname) hname hspeakable hshort hcopy rfl)
  rw [IsOpen, hh.directory] at hopen
  refine ⟨runnable, hcopy, ⟨fun hfound => ?_, hread⟩, fun havoids => hread ?_⟩
  · -- the path of the copy goes on from that of the staging directory
    refine Classical.byContradiction fun hlost => ?_
    have hbeside : Beside staging name (staging.join ⟨name⟩) := beside_join rfl rfl hname
    obtain ⟨l, runnable', hfind⟩ := exists_find_of_read hfound
    exact walk_ne_ok_of_lost hopen hways hlost hbeside _ _ (find_eq_ok_iff_walk.1 hfind)
  · rw [hh'.find havoids, ← hh.find havoids, hopen]

end Write

/-! ### Renamed entries -/

/-- What following one entry does to the renamed entries. -/
def renameStep (t : FileTree) (cwd : Location) (p : Path) (renames : SortedMap String) (e : String) :
    SortedMap String :=
  if t.isFile cwd (entryPath p e) then renameTo renames e (entryPath p e) else renames

theorem renamesFor_eq (t : FileTree) (cwd : Location) (p : Path) (entries : List String) :
    renamesFor t cwd p entries = entries.foldl (renameStep t cwd p) ∅ := rfl

/-- An entry that is followed is renamed if it has a new name. -/
theorem renameStep_eq (t : FileTree) (cwd : Location) (p : Path) (renames : SortedMap String)
    (e : String) :
    renameStep t cwd p renames e = ((newName? t cwd p e).map (renames.insert e)).getD renames := by
  unfold renameStep newName? renameTo
  by_cases hfile : t.isFile cwd (entryPath p e) = true
  · rw [if_pos hfile, if_pos hfile]
    cases (entryPath p e).fileName? with
    | none => rfl
    | some name => cases hsibling : namesSibling e name <;> simp [hsibling]
  · rw [if_neg hfile, if_neg hfile]
    rfl

/-- Nothing is renamed if no entry has a new name. -/
theorem renamesFor_eq_empty {entries : List String}
    (h : ∀ e ∈ entries, newName? t cwd p e = none) : renamesFor t cwd p entries = ∅ := by
  rw [renamesFor_eq]
  induction entries with
  | nil => rfl
  | cons e entries ih =>
      obtain ⟨he, hrest⟩ := List.forall_mem_cons.1 h
      have hstep : renameStep t cwd p ∅ e = ∅ := by
        rw [renameStep_eq, he]
        rfl
      rw [List.foldl_cons, hstep, ih hrest]

/-! ### Runs -/

/-- The path of a copy ends in the name of its source. -/
theorem Runs.exists_copy_eq (hruns : Runs staging task s result s') (hresult : result = .ok copy) :
    ∃ name, task.path.fileName? = some name ∧ copy = staging.join ⟨name⟩ := by
  induction hruns with
  | nameless | unreadable | failed | unwritable => cases hresult
  | met hname => exact ⟨_, hname, (Except.ok.inj hresult).symm⟩
  | start _ _ _ _ ih => exact ih hresult
  | skipped _ _ ih => exact ih hresult
  | followed _ _ _ _ ih => exact ih hresult
  | written hname => exact ⟨_, hname, (Except.ok.inj hresult).symm⟩

/-- Where nothing can be written, only a source that has been met can be copied, and that changes
nothing. -/
theorem Runs.host_eq_of_shut (hruns : Runs staging task s result s') (hresult : result = .ok copy)
    (hshut : IsShut staging s.host) : s'.host = s.host ∧ ∃ p, task = .copy p := by
  induction hruns generalizing copy with
  | nameless | unreadable | failed | unwritable => cases hresult
  | met => exact ⟨rfl, _, rfl⟩
  | start _ _ _ _ ih =>
      obtain ⟨-, p, htask⟩ := ih hresult hshut
      cases htask
  | skipped _ _ ih =>
      obtain ⟨-, p, htask⟩ := ih hresult hshut
      cases htask
  | followed _ _ _ ihFirst ihMore =>
      obtain ⟨hhost, -⟩ := ihFirst rfl hshut
      obtain ⟨-, p, htask⟩ := ihMore hresult (hhost ▸ hshut)
      cases htask
  | written hname hwrite =>
      exact absurd hwrite (hshut _ _ _ (Path.isPlainName_of_fileName? hname))

/-- **Whatever is copied stays in the staging directory.** -/
theorem Runs.contained (hruns : Runs staging task s result s') (hresult : result = .ok copy)
    (hs : Contained t cwd dir process s.host) (hopen : IsOpen staging dir s.host) :
    Contained t cwd dir process s'.host ∧ (IsOpen staging dir s'.host ∨ IsShut staging s'.host) := by
  induction hruns generalizing copy with
  | nameless | unreadable | failed | unwritable => cases hresult
  | met => exact ⟨hs, .inl hopen⟩
  | start _ _ _ _ ih => exact ih hresult hs hopen
  | skipped _ _ ih => exact ih hresult hs hopen
  | followed _ _ more ihFirst ihMore =>
      obtain ⟨hs₁, hopen₁ | hshut⟩ := ihFirst rfl hs hopen
      · exact ihMore hresult hs₁ hopen₁
      · obtain ⟨-, p, htask⟩ := more.host_eq_of_shut hresult hshut
        cases htask
  | written hname hwrite =>
      exact hs.write hopen (Path.isPlainName_of_fileName? hname) hwrite

/-- **The copy of a configuration is written last**, with its entries renamed by what the tree holds
outside of the staging directory. -/
theorem Runs.exists_last_write {key : Path} {entries : List String} {renames : SortedMap String}
    (hruns : Runs staging (.follow key source content entries renames) s (.ok copy) s')
    (hs : Contained t cwd dir process s.host) (hopen : IsOpen staging dir s.host)
    (hapart : ∀ e ∈ entries, t.Avoids cwd dir (entryPath source e)) :
    ∃ h₁, Contained t cwd dir process h₁ ∧ IsOpen staging dir h₁ ∧
      writeAtomically h₁ copy (copyContent content (entries.foldl (renameStep t cwd source) renames)) =
        (.ok (), s'.host) := by
  induction entries generalizing s renames with
  | nil =>
      cases hruns with
      | written hname hwrite => exact ⟨s.host, hs, hopen, hwrite⟩
  | cons e entries ih =>
      obtain ⟨he, hrest⟩ := List.forall_mem_cons.1 hapart
      have hfile := hs.isFile he
      rw [List.foldl_cons]
      cases hruns with
      | skipped hno more =>
          rw [hs.directory, hfile] at hno
          rw [renameStep, hno, if_neg Bool.false_ne_true]
          exact ih more hs hopen hrest
      | @followed _ _ copy₁ _ _ _ _ _ s₁ _ _ hyes first more =>
          rw [hs.directory, hfile] at hyes
          obtain ⟨name, hname, rfl⟩ := first.exists_copy_eq rfl
          have hrename : renameStep t cwd source renames e =
              renameTo renames e (staging.join ⟨name⟩) := by
            rw [renameStep, hyes, if_pos rfl]
            refine renameTo_congr _ _ ?_
            rw [Path.fileName?_join (Path.isPlainName_of_fileName? hname)]
            exact hname
          obtain ⟨hs₁, hopen₁ | hshut⟩ := first.contained rfl hs hopen
          · rw [hrename]
            exact ih more hs₁ hopen₁ hrest
          · obtain ⟨-, p, htask⟩ := more.host_eq_of_shut rfl hshut
            cases htask

/-! ### Own content -/

/-- Whether an entry of a configuration, which is looked up in a directory, has to be renamed to a
neighbour of a name: it leads to a file, within the limits, and does not name that neighbour yet. -/
structure IsRenamed (t : FileTree) (cwd home : Location) (p : Path) (e : String) (name : List Char) :
    Prop where
  file : t.isFile home (.ofString e) = true
  within : ¬ t.BeyondLimits cwd (entryPath p e)
  named : (Path.ofString e).fileName? = some name
  other : namesSibling e name = false

/-- An entry of a configuration and the one that stands for it in the copy. -/
structure EntryOwn (t : FileTree) (cwd home : Location) (p : Path) (e e' : String) : Prop where
  renamed : ∀ name, IsRenamed t cwd home p e name → e' = String.ofList ('.' :: '/' :: name)
  kept : (∀ name, ¬ IsRenamed t cwd home p e name) → e' = e

/-- The content of a configuration and that of its copy: the same if no entry has to be renamed, and
otherwise the same value but for the entries that have to be. -/
structure OwnContent (t : FileTree) (cwd home : Location) (p : Path) (content content' : Bytes) :
    Prop where
  same : (∀ e ∈ extendsEntries content, ∀ name, ¬ IsRenamed t cwd home p e name) →
    content' = content
  renamed : ∀ v, valueOf? content = some v → v.IsWhole →
    ∃ v', valueOf? content' = some v' ∧ ConfigAs (EntryOwn t cwd home p) v v'

variable {home l : Location} {runnable : Bool} {e e' : String}

/-- The name of a file that an entry leads to is that of the entry. -/
theorem fileName?_entryPath (h : t.isFile cwd (entryPath p e) = true) :
    (entryPath p e).fileName? = (Path.ofString e).fileName? := by
  obtain ⟨l, content, runnable, hfind⟩ := exists_find_of_isFile h
  obtain ⟨-, ⟨left, hleads⟩, hget⟩ := find_eq_ok_iff.1 hfind
  refine Path.fileName?_join_of_steps fun hnil => ?_
  have hne := Text.splitOn_ne_nil '/' (entryPath p e).chars
  have hlast := hleads.isIdle_getLast (by rw [hget]; simp) hne
  -- the last segment of the path is one of the entry
  have hmem : (Text.splitOn '/' (entryPath p e).chars).getLast hne ∈
      Text.splitOn '/' (Path.ofString e).chars := by
    cases hrelative : (Path.ofString e).isAbsolute with
    | true =>
        have hpath : entryPath p e = .ofString e := Path.join_of_isAbsolute hrelative
        simp only [hpath]
        exact List.getLast_mem _
    | false =>
        obtain ⟨front, -, hsplit⟩ := Path.exists_splitOn_join (p.parent?.getD ⟨['.']⟩)
        have hsplit := hsplit (.ofString e) hrelative
        rw [← entryPath] at hsplit
        simp only [hsplit]
        rw [List.getLast_append_of_ne_nil _ (Text.splitOn_ne_nil '/' _)]
        exact List.getLast_mem _
  have hidle := List.filter_eq_nil_iff.1 hnil _ hmem
  rw [hlast] at hidle
  exact hidle rfl

/-- What an entry is renamed to. -/
theorem newName?_eq_some_iff (hhome : t.IsHome cwd p home)
    (hfind : t.find cwd p = .ok (l, .file content runnable)) (hname : p.fileName? = some name) :
    newName? t cwd p e = some e' ↔
      ∃ m, IsRenamed t cwd home p e m ∧ e' = String.ofList ('.' :: '/' :: m) := by
  have hiff := isFile_entryPath_iff (e := e) hhome hfind hname
  unfold newName?
  by_cases hfile : t.isFile cwd (entryPath p e) = true
  · rw [if_pos hfile, fileName?_entryPath hfile, Option.bind_eq_some_iff]
    obtain ⟨hfound, hwithin⟩ := hiff.1 hfile
    constructor
    · rintro ⟨m, hm, hsome⟩
      cases hsibling : namesSibling e m with
      | true => simp [hsibling] at hsome
      | false =>
          simp only [hsibling, Bool.false_eq_true, if_false, Option.some.injEq] at hsome
          exact ⟨m, ⟨hfound, hwithin, hm, hsibling⟩, hsome.symm⟩
    · rintro ⟨m, hm, rfl⟩
      exact ⟨m, hm.named, by rw [hm.other, if_neg Bool.false_ne_true]⟩
  · rw [if_neg hfile]
    constructor
    · exact nofun
    · rintro ⟨m, hm, -⟩
      exact absurd (hiff.2 ⟨hm.file, hm.within⟩) hfile

/-- **A copy has the configuration's own content.** -/
theorem ownContent_copyContent (hhome : t.IsHome cwd p home)
    (hfind : t.find cwd p = .ok (l, .file content runnable)) (hname : p.fileName? = some name) :
    OwnContent t cwd home p content
      (copyContent content (renamesFor t cwd p (extendsEntries content))) := by
  have hrenamed : ∀ {e e'}, newName? t cwd p e = some e' ↔
      ∃ m, IsRenamed t cwd home p e m ∧ e' = String.ofList ('.' :: '/' :: m) :=
    newName?_eq_some_iff hhome hfind hname
  have hnone : ∀ {e}, (∀ m, ¬ IsRenamed t cwd home p e m) → newName? t cwd p e = none := by
    intro e hkept
    refine Option.eq_none_iff_forall_ne_some.2 fun e' he' => ?_
    obtain ⟨m, hm, -⟩ := hrenamed.1 he'
    exact hkept m hm
  refine ⟨fun hkept => ?_, fun v hv hwhole => configAs_copyContent hv hwhole fun e he => ?_⟩
  · rw [renamesFor_eq_empty fun e he => hnone (hkept e he)]
    exact copyContent_of_isEmpty rfl
  · rw [renamed_renamesFor he]
    refine ⟨fun m hm => ?_, fun hkept => ?_⟩
    · rw [hrenamed.2 ⟨m, hm, rfl⟩]
      rfl
    · rw [hnone hkept]
      rfl

end Staging

open Staging FileTree in
/-- **The copy that is returned has the configuration's own content.** Whatever stands in the staging
directory, as long as no temporary file of the process is a link there and no entry of the
configuration leads into it: a staging that succeeds returns the path of a copy under the name of its
source, and that copy is the source but for the entries that lead to files. Its path leads to the
copy exactly if the path of the staging directory still leads there, as it does unless it leads
through something that stands in this directory itself. -/
theorem stageConfig_own {h h' : Host} {t : FileTree} {dir : Location} {source staging copy : Path}
    (hmade : h.files.makeDirectories h.directory staging = (t, .ok ()))
    (hdir : t.find h.directory (staging.join ⟨['.']⟩) = .ok (dir, .directory))
    (hunlinked : ∀ name write target,
      t.get? (dir ++ [temporaryName name h.processId write]) ≠ some (.link target))
    (hapart : ∀ content, t.read h.directory source = .ok content →
      ∀ e ∈ extendsEntries content, t.Avoids h.directory dir (entryPath source e))
    (hrun : (stageConfig source staging).run.run h = (.ok copy, h')) :
    ∃ name home content content' runnable,
      source.fileName? = some name ∧ copy = staging.join ⟨name⟩ ∧
        t.IsHome h.directory source home ∧ t.read h.directory source = .ok content ∧
        OwnContent t h.directory home source content content' ∧
        h'.files.get? (dir ++ [name]) = some (.file content' runnable) ∧
        (h'.files.read h.directory copy = .ok content' ↔
          h'.files.find h.directory (staging.join ⟨['.']⟩) = .ok (dir, .directory)) ∧
        (t.Avoids h.directory dir (staging.join ⟨['.']⟩) →
          h'.files.read h.directory copy = .ok content') := by
  obtain ⟨s, hstages, rfl⟩ := exists_stages_of_run hrun
  cases hstages with
  | made hmade' hruns =>
      cases hmade.symm.trans hmade'
      obtain ⟨name, hname, hcopy⟩ := hruns.exists_copy_eq rfl
      cases hruns with
      | met _ hmet => cases hmet
      | @start _ _ _ _ content _ _ _ hread hfollow =>
          have hcontained : Contained t h.directory dir h.processId { h with files := t } :=
            ⟨rfl, rfl, fun _ _ => rfl, hunlinked⟩
          obtain ⟨h₁, hh₁, hopen, hwrite⟩ :=
            hfollow.exists_last_write hcontained hdir (hapart _ hread)
          obtain ⟨l, runnable, hfind⟩ := exists_find_of_read hread
          obtain ⟨home, hhome⟩ := exists_isHome hfind hname
          subst hcopy
          obtain ⟨runnable', hget, hiff, havoids⟩ :=
            hh₁.read_of_write hopen (Path.isPlainName_of_fileName? hname) hwrite
          exact ⟨name, home, content, _, runnable', hname, rfl, hhome, hread,
            ownContent_copyContent hhome hfind hname, hget, hiff, havoids⟩

/-! ### A copy over what was left behind -/

section Stale

open Staging FileTree

/-- Two configurations that extend each other, and a staging directory in which a link to one of them
has the name of the other one. -/
def staleTree : FileTree :=
  (ringTree.put [['w'], "out".toList] .directory).put [['w'], "out".toList, "main.json".toList]
    (.link "../sub/base.json")

/-- What the source of the copy holds. -/
def staleContent : Bytes := ((withStaging staleTree).read [['w']] "main.json").toOption.getD []

theorem staleTree_evaluated :
    (staleTree.makeDirectories [['w']] "out").2.toOption = some () ∧
      ((withStaging staleTree).find [['w']] "out/.").toOption =
        some ([['w'], "out".toList], .directory) ∧
      (∀ e ∈ (withStaging staleTree).entries.entries, e.2.isLink = true →
        e.1.getLast?.bind List.head? ≠ some '.') ∧
      (∀ e ∈ extendsEntries staleContent,
        (withStaging staleTree).Avoids [['w']] [['w'], "out".toList] (entryPath "main.json" e)) ∧
      (withStaging staleTree).Avoids [['w']] [['w'], "out".toList] "out/." ∧
      ((stageConfig "main.json" "out").run.run (stagingHost staleTree)).1.toOption =
        some "out/main.json" := by
  decide +kernel

theorem makeDirectories_staleTree :
    staleTree.makeDirectories [['w']] "out" = (withStaging staleTree, .ok ()) :=
  makeDirectories_out staleTree_evaluated.1

/-- No temporary file is a link if the names of links do not begin with a dot. -/
theorem unlinked_of_entries {t : FileTree}
    (h : ∀ e ∈ t.entries.entries, e.2.isLink = true → e.1.getLast?.bind List.head? ≠ some '.')
    (dir : Location) (name : List Char) (process write : Nat) (target : Path) :
    t.get? (dir ++ [temporaryName name process write]) ≠ some (.link target) := by
  intro hget
  refine h _ (mem_entries_of_get? (by simp) hget) rfl ?_
  rw [List.getLast?_concat]
  rfl

/-- What was left behind in the staging directory does not keep a configuration from its own copy. -/
theorem stageConfig_own_stale :
    ∃ h' home content content', (stageConfig "main.json" "out").run.run (stagingHost staleTree) =
        (.ok "out/main.json", h') ∧
      (withStaging staleTree).read [['w']] "main.json" = .ok content ∧
      OwnContent (withStaging staleTree) [['w']] home "main.json" content content' ∧
      h'.files.read [['w']] "out/main.json" = .ok content' := by
  obtain ⟨-, hdir, hlinks, hentries, havoids, hresult⟩ := staleTree_evaluated
  obtain ⟨h', hrun⟩ := exists_pair_of_toOption hresult
  have hapart : ∀ content, (withStaging staleTree).read [['w']] "main.json" = .ok content →
      ∀ e ∈ extendsEntries content,
        (withStaging staleTree).Avoids [['w']] [['w'], "out".toList] (entryPath "main.json" e) := by
    intro content hcontent
    rw [staleContent, hcontent] at hentries
    exact hentries
  obtain ⟨name, home, content, content', runnable, -, -, -, hcontent, hown, -, -, hcopy⟩ :=
    stageConfig_own (h := stagingHost staleTree) makeDirectories_staleTree (eq_ok_of_toOption hdir)
      (fun name => unlinked_of_entries hlinks _ name 1) hapart hrun
  exact ⟨h', home, content, content', hrun, hcontent, hown, hcopy havoids⟩

end Stale

/-! ### Copies that are not found, and entries that are not renamed -/

section Astray

open Staging FileTree

/-- A configuration, and a staging directory with a link of its name that leads to the directory
itself. -/
def loopTree : FileTree :=
  ((((FileTree.empty.put [['w']] .directory).put [['w'], "src".toList] .directory).put
    [['w'], "src".toList, "self".toList] (.file (Utf8.encode "\x7b\x7d") false)).put
    [['w'], "stage".toList] .directory).put [['w'], "stage".toList, "self".toList] (.link ".")

theorem astray_evaluated :
    ((stageConfig "src/self" "stage/self").run.run (stagingHost loopTree)).1.toOption =
        some "stage/self/self" ∧
      (((stageConfig "src/self" "stage/self").run.run (stagingHost loopTree)).2.files.read [['w']]
        "stage/self/self").isOk = false ∧
      loopTree.Avoids [['w']] [['w'], "stage".toList] "src/self" ∧
      extendsEntries (Utf8.encode "\x7b\x7d") = [] ∧
      detour.parent?.map (fun b => ((withStaging detourTree).find [['w']] b).toOption) =
        some (some ([['w']], .directory)) ∧
      (withStaging detourTree).isFile [['w']] "d/../base.json" = true ∧
      namesSibling "d/../base.json" "base.json".toList = false ∧
      (((stageConfig detour "out").run.run (stagingHost detourTree)).2.files.read [['w']]
        "out/main.json").toOption =
          some (Utf8.encode "\x7b\"extends\": \"d/../base.json\"\x7d") := by
  decide +kernel

theorem isHome_detour : (withStaging detourTree).IsHome [['w']] detour [['w']] := by
  obtain ⟨-, -, -, -, hhome, -⟩ := astray_evaluated
  obtain ⟨b, hparent, hfind⟩ := Option.map_eq_some_iff.1 hhome
  have hfound := eq_ok_of_toOption hfind
  exact ⟨get?_of_find hfound, b, hparent, .inr hfound⟩

/-- The copy replaces the link through which its path leads; and an entry that leads to a file by a
detour is not renamed, as the path that it makes is too long. -/
theorem astray_copies :
    (∃ h', (stageConfig "src/self" "stage/self").run.run (stagingHost loopTree) =
        (.ok "stage/self/self", h') ∧
      loopTree.Avoids [['w']] [['w'], "stage".toList] "src/self" ∧
      extendsEntries (Utf8.encode "\x7b\x7d") = [] ∧
      (h'.files.read [['w']] "stage/self/self").isOk = false) ∧
    ∃ h', (stageConfig detour "out").run.run (stagingHost detourTree) = (.ok "out/main.json", h') ∧
      Setting (withStaging detourTree) [['w']] [['w'], "out".toList] detour "out" ∧
      (withStaging detourTree).IsHome [['w']] detour [['w']] ∧
      (withStaging detourTree).isFile [['w']] "d/../base.json" = true ∧
      namesSibling "d/../base.json" "base.json".toList = false ∧
      h'.files.read [['w']] "out/main.json" =
        .ok (Utf8.encode "\x7b\"extends\": \"d/../base.json\"\x7d") := by
  obtain ⟨hself, hlost, havoids, hentries, -, hfile, hother, hcopy⟩ := astray_evaluated
  constructor
  · obtain ⟨h', hrun⟩ := exists_pair_of_toOption hself
    rw [hrun] at hlost
    exact ⟨h', hrun, havoids, hentries, hlost⟩
  · obtain ⟨h', hrun, -⟩ := run_detour
    rw [hrun] at hcopy
    exact ⟨h', hrun, setting_detour, isHome_detour, hfile, hother, eq_ok_of_toOption hcopy⟩

end Astray

end StandardsGate
