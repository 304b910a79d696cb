import Mathlib.Logic.Relation
import StandardsGate.Proofs.Staging.Coherence

/-!
What a run has read.

Where there are no links, an entry leads from a configuration where it leads from the directory in
which that configuration stands, by whatever path it was reached. So the graph of configurations is a
graph of places, and a copy that succeeds has read all that can be reached in it, unless a path gets
too long to be looked up on the way.

Main definitions:

* `Staging.Extends`, `Staging.Reachable` — the graph of configurations, and what can be reached in it;
* `Staging.Short` — no chain of different configurations spells too long a path.

Main results:

* `Staging.find_entryPath_iff` — **where an entry leads**;
* `stageConfig_terminates` — **a staging comes to an end**, reads nothing twice, writes one copy of
  what it reads, and reads what can be reached.
-/

namespace StandardsGate

namespace Staging

open FileTree

variable {t : FileTree} {cwd dir l l' : Location} {source staging p : Path} {content content' : Bytes}
  {runnable runnable' : Bool} {name : List Char} {e : String}

/-- The path of a relative entry is spelled by segments for the directory of the configuration and
those of the entry. -/
theorem exists_splitOn_entryPath (cwd : Location) (hname : p.fileName? = some name)
    (hrelative : (Path.ofString e).isAbsolute = false) :
    ∃ front, front.filter (fun s => !Path.isIdle s) = p.steps.dropLast ∧
      Text.splitOn '/' (entryPath p e).chars = front ++ Text.splitOn '/' (Path.ofString e).chars ∧
      linkStart cwd (entryPath p e) = linkStart cwd p := by
  obtain ⟨b, hparent, hsteps, hroot⟩ := Path.exists_parent hname
  have hpath : entryPath p e = b.join (.ofString e) := by
    rw [entryPath, hparent]
    rfl
  obtain ⟨front, hfront, hsplit⟩ := Path.exists_splitOn_join b
  refine ⟨front, hfront.trans hsteps, hpath ▸ hsplit _ hrelative, ?_⟩
  rw [hpath, linkStart, linkStart, Path.isAbsolute_join hrelative, hroot]

/-- A walk along an entry goes on from the directory of the configuration. -/
theorem walkFrom_entryPath (hlinkless : t.Linkless)
    (hfind : t.find cwd p = .ok (l, .file content runnable)) (hname : p.fileName? = some name)
    (hrelative : (Path.ofString e).isAbsolute = false) :
    t.walkFrom true linkLimit (linkStart cwd (entryPath p e))
        (Text.splitOn '/' (entryPath p e).chars) =
      t.walkFrom true linkLimit l.dropLast (Text.splitOn '/' (Path.ofString e).chars) := by
  obtain ⟨dir, rfl, -, hways⟩ := exists_directory_of_find hlinkless hfind hname
  obtain ⟨front, hfront, hsplit, hstart⟩ := exists_splitOn_entryPath cwd hname hrelative
  rw [hsplit, hstart, (hways front hfront).walkFrom_append (by simp), List.dropLast_concat]

/-- The path of an entry is a text without null characters if the entry is. -/
theorem spellable_entryPath (hp : Speakable p) (hname : p.fileName? = some name)
    (he : Speakable (.ofString e)) :
    '\x00' ∉ (entryPath p e).chars ∧ (entryPath p e).chars ≠ [] := by
  obtain ⟨b, hparent, -⟩ := Path.exists_parent hname
  have hpath : entryPath p e = b.join (.ofString e) := by
    rw [entryPath, hparent]
    rfl
  rw [hpath]
  obtain ⟨front, hchars⟩ := Path.exists_chars_join b (.ofString e)
  refine ⟨fun hnull => ?_, fun hnil => he.2.1 ?_⟩
  · rcases Path.mem_chars_join hnull with hnull | hnull | hnull
    · exact hp.1 ((Path.parent?_isPrefix hparent).subset hnull)
    · cases hnull
    · exact he.1 hnull
  · rw [hchars] at hnil
    exact (List.append_eq_nil_iff.1 hnil).2

/-- A path is a text that can be looked up if an entry is, and its path is not too long. -/
theorem speakable_entryPath (hp : Speakable p) (hname : p.fileName? = some name)
    (he : Speakable (.ofString e)) (hshort : byteCount (entryPath p e).chars ≤ pathLimit) :
    Speakable (entryPath p e) := by
  obtain ⟨hnull, hne⟩ := spellable_entryPath hp hname he
  exact ⟨hnull, hne, hshort⟩

/-- An entry is a text that can be looked up if its path is, and is not empty. -/
theorem speakable_of_entryPath (h : Speakable (entryPath p e)) (hne : (Path.ofString e).chars ≠ []) :
    Speakable (.ofString e) := by
  obtain ⟨front, hchars⟩ := Path.exists_chars_join (p.parent?.getD ⟨['.']⟩) (.ofString e)
  obtain ⟨hnull, -, hlong⟩ := h
  rw [entryPath, hchars] at hnull hlong
  rw [byteCount_append] at hlong
  exact ⟨fun hmem => hnull (List.mem_append_right _ hmem), hne,
    Nat.le_trans (Nat.le_add_left _ _) hlong⟩

/-- **Where an entry leads**, without links: where it leads from the directory of the configuration. -/
theorem find_entryPath_iff (hlinkless : t.Linkless)
    (hfind : t.find cwd p = .ok (l, .file content runnable)) (hname : p.fileName? = some name)
    (hshort : byteCount (entryPath p e).chars ≤ pathLimit) :
    t.find cwd (entryPath p e) = .ok (l', .file content' runnable') ↔
      t.find l.dropLast (.ofString e) = .ok (l', .file content' runnable') := by
  cases hrelative : (Path.ofString e).isAbsolute with
  | true =>
      have hpath : entryPath p e = .ofString e := Path.join_of_isAbsolute hrelative
      have hstart : linkStart cwd (.ofString e) = linkStart l.dropLast (.ofString e) := by
        rw [linkStart, linkStart, if_pos hrelative, if_pos hrelative]
      rw [hpath, find_eq_ok_iff, find_eq_ok_iff, hstart]
  | false =>
      have hwalk := walkFrom_entryPath hlinkless hfind hname hrelative
      have hstart : linkStart l.dropLast (.ofString e) = l.dropLast := by
        rw [linkStart, hrelative, if_neg Bool.false_ne_true]
      rw [find_eq_ok_iff_walk, find_eq_ok_iff_walk, walk_eq_ok_iff, walk_eq_ok_iff, hwalk, hstart]
      refine and_congr_left fun hfound => ⟨fun h => ?_, fun h => ?_⟩
      · refine speakable_of_entryPath h fun hnil => ?_
        -- an empty entry leads to the directory itself
        obtain ⟨dir, rfl, hdir, -⟩ := exists_directory_of_find hlinkless hfind hname
        rw [hnil, List.dropLast_concat, Text.splitOn, walkFrom_of_isIdle hdir rfl,
          walkFrom_nil_of_some hdir] at hfound
        cases hfound
      · exact speakable_entryPath (find_eq_ok_iff.1 hfind).1 hname h hshort

/-! ### The graph of configurations -/

/-- Whether an entry of a configuration leads to another one, both being told by their places. -/
def Extends (t : FileTree) (l l' : Location) : Prop :=
  ∃ content runnable content' runnable' e, t.get? l = some (.file content runnable) ∧
    e ∈ extendsEntries content ∧
    t.find l.dropLast (.ofString e) = .ok (l', .file content' runnable')

/-- The places of what the entries of a configuration lead to. -/
def successors (t : FileTree) (l : Location) : List Location :=
  match t.get? l with
  | some (.file content _) => (extendsEntries content).filterMap fun e =>
    match t.find l.dropLast (.ofString e) with
    | .ok (l', .file _ _) => some l'
    | _ => none
  | _ => []

theorem extends_iff_mem_successors : Extends t l l' ↔ l' ∈ successors t l := by
  constructor
  · rintro ⟨content, runnable, content', runnable', e, hget, he, hfind⟩
    rw [successors, hget]
    exact List.mem_filterMap.2 ⟨e, he, by rw [hfind]⟩
  · intro h
    unfold successors at h
    split at h
    · rename_i content runnable hget
      obtain ⟨e, he, hfound⟩ := List.mem_filterMap.1 h
      split at hfound
      · rename_i l'' content' runnable' hfind
        cases hfound
        exact ⟨content, runnable, content', runnable', e, hget, he, hfind⟩
      · cases hfound
    · cases h

/-- The places that can be reached from a source through entries. -/
def Reachable (t : FileTree) (cwd : Location) (source : Path) (l : Location) : Prop :=
  ∃ start content runnable, t.find cwd source = .ok (start, .file content runnable) ∧
    Relation.ReflTransGen (Extends t) start l

/-- What can be reached can be told from a list of places that no entry leads out of. -/
theorem Reachable.mem_of_closed {places : List Location} (h : Reachable t cwd source l)
    (hsource : ∀ start e, t.find cwd source = .ok (start, e) → start ∈ places)
    (hclosed : ∀ k ∈ places, ∀ k' ∈ successors t k, k' ∈ places) : l ∈ places := by
  obtain ⟨start, content, runnable, hstart, hpath⟩ := h
  induction hpath with
  | refl => exact hsource _ _ hstart
  | tail _ hedge ih => exact hclosed _ ih _ (extends_iff_mem_successors.1 hedge)

theorem Reachable.isProper (h : Reachable t cwd source l) (hcwd : cwd.IsProper) : l.IsProper := by
  obtain ⟨start, content, runnable, hsource, hpath⟩ := h
  induction hpath with
  | refl => exact isProper_of_find hsource hcwd
  | tail _ hedge ih =>
      obtain ⟨_, _, _, _, e, -, -, hentry⟩ := hedge
      exact isProper_of_find hentry ih.dropLast

/-- Whether no chain of different configurations spells a path that is too long to be looked up. -/
def Short (t : FileTree) (cwd : Location) (source : Path) : Prop :=
  ∀ visited p, Spelled t cwd source visited p → byteCount p.chars ≤ pathLimit

/-- What a chain leads to can be reached. -/
theorem Spelled.reachable (hlinkless : t.Linkless) (hshort : Short t cwd source)
    {visited : List Location} (h : Spelled t cwd source visited p)
    (hfind : t.find cwd p = .ok (l, .file content runnable)) : Reachable t cwd source l := by
  induction h generalizing l content runnable with
  | source => exact ⟨l, content, runnable, hfind, .refl⟩
  | @entry visited p k before _ name e more hbefore hname hnew he ih =>
      obtain ⟨start, content', runnable', hsource, hpath⟩ := ih hbefore
      have hlong := hshort _ _ (.entry more hbefore hname hnew he)
      refine ⟨start, content', runnable', hsource, hpath.tail ?_⟩
      exact ⟨_, _, _, _, e, get?_of_find hbefore, he,
        (find_entryPath_iff hlinkless hbefore hname hlong).1 hfind⟩

variable {process : Nat} {s : Progress}

/-- What has been read stands at the place that its key is the path of. -/
theorem Coherent.exists_read (hset : Setting t cwd dir source staging)
    (hs : Coherent t cwd dir source process s) (hl : l.IsProper) (hmem : l.path ∈ s.met) :
    ∃ p, .read l.path p ∈ s.log ∧ ∃ visited content runnable name,
      Spelled t cwd source visited p ∧ t.find cwd p = .ok (l, .file content runnable) ∧
        l ∉ visited ∧ p.fileName? = some name := by
  rw [hs.met] at hmem
  obtain ⟨event, hevent, hkey⟩ := List.mem_filterMap.1 hmem
  cases event with
  | write => cases hkey
  | read key p =>
      cases hkey
      obtain ⟨visited, l', content, runnable, name, hspelled, hfind, hnew, hpath, hname⟩ :=
        hs.read _ _ hevent
      obtain rfl := Location.path_injective hl (isProper_of_find hfind hset.proper) hpath
      exact ⟨p, hevent, visited, content, runnable, name, hspelled, hfind, hnew, hname⟩

/-- **A copy that succeeds has read what can be reached.** -/
theorem Staged.mem_readKeys_iff (hlinkless : t.Linkless) (hset : Setting t cwd dir source staging)
    (hshort : Short t cwd source) (hs : Staged t cwd dir source process s) (key : Path) :
    key ∈ s.readKeys ↔ ∃ l, Reachable t cwd source l ∧ key = l.path := by
  constructor
  · intro hkey
    obtain ⟨event, hevent, hread⟩ := List.mem_filterMap.1 hkey
    cases event with
    | write => cases hread
    | read key' p =>
        cases hread
        obtain ⟨visited, l, content, runnable, name, hspelled, hfind, -, hpath, -⟩ :=
          hs.read _ _ hevent
        exact ⟨l, hspelled.reachable hlinkless hshort hfind, hpath⟩
  · rintro ⟨l, ⟨start, content, runnable, hsource, hpath⟩, rfl⟩
    rw [← hs.met]
    induction hpath with
    | refl =>
        obtain ⟨l, content', runnable', name, hfind, hmem, -⟩ := hs.first
        cases hfind.symm.trans hsource
        exact hmem
    | @tail l l' hpath hedge hmem =>
        have hl : l.IsProper :=
          Reachable.isProper ⟨start, content, runnable, hsource, hpath⟩ hset.proper
        obtain ⟨content, runnable, content', runnable', e, hget, he, hentry⟩ := hedge
        obtain ⟨p, hread, visited, before, runnable'', name, hspelled, hfind, hnew, hname⟩ :=
          hs.exists_read hset hl hmem
        cases hget.symm.trans (get?_of_find hfind)
        have hlong := hshort _ _ (.entry hspelled hfind hname hnew he)
        have hfound := (find_entryPath_iff hlinkless hfind hname hlong).2 hentry
        obtain ⟨copied, hwrite⟩ := hs.copied _ _ hread
        obtain ⟨-, before', hbefore, -, hentries⟩ := hs.write _ _ _ hwrite
        cases (read_of_find hfind).symm.trans hbefore
        obtain ⟨_, _, _, _, hfind', hmem', -⟩ := hentries e he (isFile_of_find hfound)
        cases hfound.symm.trans hfind'
        exact hmem'

end Staging

open Staging in
/-- **A staging comes to an end.** It reads nothing twice and writes one copy at most of what it reads.
If it succeeds, nothing is a link, no chain of different configurations spells too long a path, and no
path leads into the staging directory, it has read what can be reached from the source. -/
theorem stageConfig_terminates (h : Host) (source staging : Path) :
    (∃ result s, Stages h source staging result s) ∧
      ∀ result s, Stages h source staging result s →
        (stageConfig source staging).run.run h = (result, s.host) ∧
          Distinct s.readKeys ∧ s.writeKeys.Subperm s.readKeys ∧
          ∀ t dir copy, h.files.makeDirectories h.directory staging = (t, .ok ()) → t.Linkless →
            Setting t h.directory dir source staging → Short t h.directory source →
            result = .ok copy →
            ∀ key, key ∈ s.readKeys ↔ ∃ l, Reachable t h.directory source l ∧ key = l.path := by
  obtain ⟨result₀, s₀, hstages₀, hrun⟩ := exists_stages h source staging
  refine ⟨⟨result₀, s₀, hstages₀⟩, fun result s hstages => ?_⟩
  obtain ⟨rfl, rfl⟩ := hstages₀.unique hstages
  obtain ⟨hdistinct, hwrites⟩ := hstages.distinct_readKeys
  refine ⟨hrun, hdistinct, hwrites, ?_⟩
  rintro t dir copy hmade hlinkless hset hshort rfl key
  exact (hstages.staged hmade hset).1.mem_readKeys_iff hlinkless hset hshort key

/-! ### Two configurations that extend each other -/

section Ring

open Staging FileTree

/-- A host that works in a directory `w` and runs no programs. -/
def stagingHost (files : FileTree) : Host where
  files := files
  directory := [['w']]
  executable := "/g/guard"
  input := []
  actor := "guard"
  now := ⟨0, 0⟩
  processId := 1
  writes := 0
  start _ _ files := (.error (.os .notFound), files)

/-- A configuration and one below it that it extends, with the text of that one. -/
def nestedTree (base : String) : FileTree :=
  (((FileTree.empty.put [['w']] .directory).put [['w'], "main.json".toList]
    (.file (Utf8.encode "\x7b\"extends\": [\"./sub/base.json\", \"eslint:recommended\"]\x7d") false)).put
    [['w'], "sub".toList] .directory).put [['w'], "sub".toList, "base.json".toList]
    (.file (Utf8.encode base) false)

/-- Two configurations that extend each other. -/
def ringTree : FileTree := nestedTree "\x7b\"extends\": \"../main.json\"\x7d"

/-- The tree with the staging directory. -/
def withStaging (t : FileTree) : FileTree := (t.makeDirectories [['w']] "out").1

theorem makeDirectories_out {t : FileTree}
    (h : (t.makeDirectories [['w']] "out").2.toOption = some ()) :
    t.makeDirectories [['w']] "out" = (withStaging t, .ok ()) :=
  Prod.ext rfl (eq_ok_of_toOption h)

-- all that is looked up is checked in one go
theorem ringTree_evaluated :
    (ringTree.makeDirectories [['w']] "out").2.toOption = some () ∧
      (∀ e ∈ (withStaging ringTree).entries.entries, e.2.isLink = false) ∧
      ((withStaging ringTree).find [['w']] "out/.").toOption =
        some ([['w'], "out".toList], .directory) ∧
      ((stageConfig "main.json" "out").run.run (stagingHost ringTree)).1.toOption =
        some "out/main.json" ∧
      (spellings (withStaging ringTree) [['w']] "main.json" 3).isEmpty = true ∧
      ∀ q ∈ (List.range 3).flatMap (spellings (withStaging ringTree) [['w']] "main.json"),
        (withStaging ringTree).Avoids [['w']] [['w'], "out".toList] q.2 ∧
          q.2.fileName?.all (fun name => !(['.', 't', 'm', 'p'].isSuffixOf name)) = true ∧
          byteCount q.2.chars ≤ pathLimit := by
  decide +kernel

theorem makeDirectories_ringTree :
    ringTree.makeDirectories [['w']] "out" = (withStaging ringTree, .ok ()) :=
  makeDirectories_out ringTree_evaluated.1

theorem linkless_ringTree : (withStaging ringTree).Linkless :=
  linkless_of_entries ringTree_evaluated.2.1

theorem run_ringTree : ∃ h', (stageConfig "main.json" "out").run.run (stagingHost ringTree) =
    (.ok "out/main.json", h') :=
  exists_pair_of_toOption ringTree_evaluated.2.2.2.1

theorem spelled_ringTree :
    (spellings (withStaging ringTree) [['w']] "main.json" 3).isEmpty = true ∧
      ∀ q ∈ (List.range 3).flatMap (spellings (withStaging ringTree) [['w']] "main.json"),
        (withStaging ringTree).Avoids [['w']] [['w'], "out".toList] q.2 ∧
          q.2.fileName?.all (fun name => !(['.', 't', 'm', 'p'].isSuffixOf name)) = true ∧
          byteCount q.2.chars ≤ pathLimit :=
  ringTree_evaluated.2.2.2.2

theorem spellings_ringTree : spellings (withStaging ringTree) [['w']] "main.json" 3 = [] :=
  List.isEmpty_iff.1 spelled_ringTree.1

theorem setting_ringTree :
    Setting (withStaging ringTree) [['w']] [['w'], "out".toList] "main.json" "out" :=
  setting_of_spellings 3 spellings_ringTree (by decide) linkless_ringTree
    (eq_ok_of_toOption ringTree_evaluated.2.2.1) fun q hq => (spelled_ringTree.2 q hq).1

theorem short_ringTree : Short (withStaging ringTree) [['w']] "main.json" :=
  fun _ _ => forall_of_spellings (P := fun q => byteCount q.2.chars ≤ pathLimit) 3
    spellings_ringTree fun q hq => (spelled_ringTree.2 q hq).2.2

/-- What can be reached from one of two configurations that extend each other is read. -/
theorem stageConfig_terminates_ring :
    ∃ s, Stages (stagingHost ringTree) "main.json" "out" (.ok "out/main.json") s ∧
      ∀ key, key ∈ s.readKeys ↔
        ∃ l, Reachable (withStaging ringTree) [['w']] "main.json" l ∧ key = l.path := by
  obtain ⟨h', hrun⟩ := run_ringTree
  obtain ⟨s, hstages, -⟩ := exists_stages_of_run hrun
  have hall := (stageConfig_terminates (stagingHost ringTree) "main.json" "out").2 _ s hstages
  exact ⟨s, hstages, hall.2.2.2 _ _ _ makeDirectories_ringTree linkless_ringTree setting_ringTree
    short_ringTree rfl⟩

end Ring

/-! ### A path that gets too long -/

section Detour

open Staging FileTree

/-- A configuration and one beside it that it extends by a detour. -/
def detourTree : FileTree :=
  ((((FileTree.empty.put [['w']] .directory).put [['w'], ['d']] .directory).put
    [['w'], List.replicate 250 'd'] .directory).put [['w'], "main.json".toList]
    (.file (Utf8.encode "\x7b\"extends\": \"d/../base.json\"\x7d") false)).put
    [['w'], "base.json".toList] (.file (Utf8.encode "\x7b\x7d") false)

/-- A path of 4093 bytes. -/
def detour : Path :=
  ⟨(List.replicate 16 (List.replicate 250 'd' ++ "/../".toList)).flatten ++
    "d/../d/../d/../d/../main.json".toList⟩

/-- The places of a configuration and of one beside it. -/
def detourPlaces : List Location := [[['w'], "main.json".toList], [['w'], "base.json".toList]]

theorem detour_evaluated :
    (detourTree.makeDirectories [['w']] "out").2.toOption = some () ∧
      (∀ e ∈ (withStaging detourTree).entries.entries, e.2.isLink = false) ∧
      ((withStaging detourTree).find [['w']] "out/.").toOption =
        some ([['w'], "out".toList], .directory) ∧
      ((stageConfig detour "out").run.run (stagingHost detourTree)).1.toOption =
        some "out/main.json" ∧
      (((stageConfig detour "out").run.run (stagingHost detourTree)).2.files.get?
        [['w'], "out".toList, "base.json".toList]).isNone = true ∧
      ([['w'], "base.json".toList] ∈
          successors (withStaging detourTree) [['w'], "main.json".toList] ∧
        ∀ l ∈ detourPlaces, ∀ l' ∈ successors (withStaging detourTree) l, l' ∈ detourPlaces) ∧
      ((withStaging detourTree).find [['w']] detour).toOption = some ([['w'], "main.json".toList],
        .file (Utf8.encode "\x7b\"extends\": \"d/../base.json\"\x7d") false) ∧
      (spellings (withStaging detourTree) [['w']] detour 2).isEmpty = true ∧
      ∀ q ∈ (List.range 2).flatMap (spellings (withStaging detourTree) [['w']] detour),
        (withStaging detourTree).Avoids [['w']] [['w'], "out".toList] q.2 ∧
          q.2.fileName?.all (fun name => !(['.', 't', 'm', 'p'].isSuffixOf name)) = true ∧
          (((withStaging detourTree).find [['w']] q.2).toOption.map Prod.fst).all
            (· == [['w'], "main.json".toList]) = true := by
  decide +kernel

theorem makeDirectories_detourTree :
    detourTree.makeDirectories [['w']] "out" = (withStaging detourTree, .ok ()) :=
  makeDirectories_out detour_evaluated.1

theorem linkless_detourTree : (withStaging detourTree).Linkless :=
  linkless_of_entries detour_evaluated.2.1

theorem spelled_detour :
    ((withStaging detourTree).find [['w']] detour).toOption = some ([['w'], "main.json".toList],
        .file (Utf8.encode "\x7b\"extends\": \"d/../base.json\"\x7d") false) ∧
      (spellings (withStaging detourTree) [['w']] detour 2).isEmpty = true ∧
      ∀ q ∈ (List.range 2).flatMap (spellings (withStaging detourTree) [['w']] detour),
        (withStaging detourTree).Avoids [['w']] [['w'], "out".toList] q.2 ∧
          q.2.fileName?.all (fun name => !(['.', 't', 'm', 'p'].isSuffixOf name)) = true ∧
          (((withStaging detourTree).find [['w']] q.2).toOption.map Prod.fst).all
            (· == [['w'], "main.json".toList]) = true :=
  detour_evaluated.2.2.2.2.2.2

theorem spellings_detour : spellings (withStaging detourTree) [['w']] detour 2 = [] :=
  List.isEmpty_iff.1 spelled_detour.2.1

theorem setting_detour :
    Setting (withStaging detourTree) [['w']] [['w'], "out".toList] detour "out" :=
  setting_of_spellings 2 spellings_detour (by decide) linkless_detourTree
    (eq_ok_of_toOption detour_evaluated.2.2.1) fun q hq => (spelled_detour.2.2 q hq).1

theorem place_of_spelled_detour {visited : List Location} {p : Path} {l : Location} {e : Entry}
    (h : Spelled (withStaging detourTree) [['w']] detour visited p)
    (hfind : (withStaging detourTree).find [['w']] p = .ok (l, e)) :
    l = [['w'], "main.json".toList] := by
  have hplace := forall_of_spellings 2 spellings_detour (fun q hq => (spelled_detour.2.2 q hq).2.2) h
  rw [hfind] at hplace
  exact beq_iff_eq.1 hplace

theorem reachable_detour {l : Location} :
    Reachable (withStaging detourTree) [['w']] detour l ↔ l ∈ detourPlaces := by
  have hsource := eq_ok_of_toOption spelled_detour.1
  obtain ⟨-, -, -, -, -, ⟨hedge, hclosed⟩, -⟩ := detour_evaluated
  constructor
  · refine fun h => h.mem_of_closed (fun start e hfind => ?_) hclosed
    cases hsource.symm.trans hfind
    exact List.mem_cons_self
  · intro hl
    rcases List.mem_cons.1 hl with rfl | hl
    · exact ⟨_, _, _, hsource, .refl⟩
    · obtain rfl := List.mem_singleton.1 hl
      exact ⟨_, _, _, hsource, .single (extends_iff_mem_successors.2 hedge)⟩

theorem run_detour :
    ∃ h', (stageConfig detour "out").run.run (stagingHost detourTree) = (.ok "out/main.json", h') ∧
      h'.files.get? [['w'], "out".toList, "base.json".toList] = none := by
  obtain ⟨-, -, -, hresult, hnone, -⟩ := detour_evaluated
  obtain ⟨h', hrun⟩ := exists_pair_of_toOption hresult
  rw [hrun] at hnone
  exact ⟨h', hrun, Option.isNone_iff_eq_none.1 hnone⟩

/-- A staging that succeeds and has not read what an entry leads to, as the path that the entry makes
is too long. -/
theorem unread_detour :
    (withStaging detourTree).Linkless ∧
      Setting (withStaging detourTree) [['w']] [['w'], "out".toList] detour "out" ∧
      ∃ s, Stages (stagingHost detourTree) detour "out" (.ok "out/main.json") s ∧
        ∃ l, Reachable (withStaging detourTree) [['w']] detour l ∧ l.path ∉ s.readKeys := by
  refine ⟨linkless_detourTree, setting_detour, ?_⟩
  obtain ⟨h', hrun, -⟩ := run_detour
  obtain ⟨s, hstages, -⟩ := exists_stages_of_run hrun
  obtain ⟨hs, -⟩ := hstages.staged makeDirectories_detourTree setting_detour
  refine ⟨s, hstages, [['w'], "base.json".toList], reachable_detour.2 (by decide), fun hkey => ?_⟩
  obtain ⟨p, -, visited, _, _, _, hspelled, hfind, -, -⟩ :=
    hs.exists_read setting_detour (by decide) (hs.met ▸ hkey)
  exact absurd (place_of_spelled_detour hspelled hfind) (by decide)

end Detour

end StandardsGate
