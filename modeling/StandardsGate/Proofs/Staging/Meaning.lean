import StandardsGate.Proofs.Staging.Copies

/-!
What the copies mean.

Where there are no links and all configurations that can be reached have different names, a staging
that succeeds makes a picture of them in the staging directory: every configuration has a copy under
its name, and where an entry led to a configuration it leads to the copy of that one.

Main definitions:

* `Staging.DistinctNames` — the configurations that can be reached have different names;
* `Staging.EntryAs` — an entry and the one that stands for it in a copy;
* `Staging.CopyOf` — a content and the content of a copy of it.

Main results:

* `stageConfig_copies` — **the copies mean what the configurations mean**.
-/

namespace StandardsGate

namespace Staging

open FileTree

variable {t t' : FileTree} {cwd dir l l' : Location} {source staging p copy : Path}
  {content before : Bytes} {runnable : Bool} {name : List Char} {e : String} {process : Nat}
  {s : Progress}

/-- Whether the configurations that can be reached have different names. -/
def DistinctNames (t : FileTree) (cwd : Location) (source : Path) : Prop :=
  ∀ l l', Reachable t cwd source l → Reachable t cwd source l' → l.getLast? = l'.getLast? → l = l'

/-- An entry of the configuration at a place, and the one that stands for it in the copy: it leads to
the copy of what the entry leads to, and is the same if that leads to no file. -/
def EntryAs (t t' : FileTree) (dir l : Location) (e e' : String) : Prop :=
  (∀ l' content runnable, t.find l.dropLast (.ofString e) = .ok (l', .file content runnable) →
    ∃ name content' runnable', l'.getLast? = some name ∧
      t'.find dir (.ofString e') = .ok (dir ++ [name], .file content' runnable')) ∧
    ((∀ l' content runnable,
      t.find l.dropLast (.ofString e) ≠ .ok (l', .file content runnable)) → e' = e)

/-- The content of the configuration at a place, and that of its copy: the same if it is no JSON, and
otherwise the same but for entries. -/
def CopyOf (t t' : FileTree) (dir l : Location) (content content' : Bytes) : Prop :=
  (valueOf? content = none → content' = content) ∧
    ∀ v, valueOf? content = some v →
      ∃ v', valueOf? content' = some v' ∧ ConfigAs (EntryAs t t' dir l) v v'

/-- Whether the configuration at a place has whole numbers only. -/
def wholeAt (t : FileTree) (l : Location) : Bool :=
  match t.get? l with
  | some (.file content _) => (valueOf? content).all Json.isWhole
  | _ => true

theorem isWhole_of_wholeAt {v : Json} (h : wholeAt t l = true)
    (hget : t.get? l = some (.file content runnable)) (hv : valueOf? content = some v) : v.IsWhole := by
  rw [wholeAt, hget] at h
  dsimp only at h
  rw [hv] at h
  exact Json.isWhole_of_eq_true h

/-- The name of a place that is found by a name is that name. -/
theorem getLast?_of_find (hlinkless : t.Linkless)
    (hfind : t.find cwd p = .ok (l, .file content runnable)) (hname : p.fileName? = some name) :
    l.getLast? = some name := by
  obtain ⟨dir, rfl, -⟩ := exists_directory_of_find hlinkless hfind hname
  exact List.getLast?_concat

/-- What an entry is renamed to stands for it. -/
theorem Staged.entryAs (hlinkless : t.Linkless) (hset : Setting t cwd dir source staging)
    (hshort : Short t cwd source) (hunclashing : Unclashing t cwd source process)
    (hs : Staged t cwd dir source process s) {key : Path} (hwrite : .write key p content ∈ s.log)
    (hfind : t.find cwd p = .ok (l, .file before runnable)) (he : e ∈ extendsEntries before) :
    EntryAs t s.host.files dir l e ((newName? t cwd p e).getD e) := by
  obtain ⟨hread, before', hbefore, -, hentries⟩ := hs.write key p content hwrite
  cases (read_of_find hfind).symm.trans hbefore
  obtain ⟨visited, _, _, _, name, hspelled, hfind', hnew, -, hname⟩ := hs.read key p hread
  cases hfind.symm.trans hfind'
  have hiff : ∀ {l' content' runnable'},
      t.find cwd (entryPath p e) = .ok (l', .file content' runnable') ↔
        t.find l.dropLast (.ofString e) = .ok (l', .file content' runnable') :=
    find_entryPath_iff hlinkless hfind hname (hshort _ _ (.entry hspelled hfind hname hnew he))
  refine ⟨fun l' content' runnable' hentry => ?_, fun hno => ?_⟩
  · have hfound := hiff.2 hentry
    obtain ⟨_, _, _, name', hmetFind, hmet, hname'⟩ := hentries e he (isFile_of_find hfound)
    cases hmetFind.symm.trans hfound
    -- the file has been read by some path, which ends in its name too
    obtain ⟨q, hq, _, _, _, name'', _, hqFind, -, hqName⟩ :=
      hs.exists_read hset (isProper_of_find hfound hset.proper) hmet
    have hlast := getLast?_of_find hlinkless hfound hname'
    obtain rfl : name'' = name' :=
      Option.some.inj ((getLast?_of_find hlinkless hqFind hqName).symm.trans hlast)
    obtain ⟨_, _, content'', runnable'', -, -, hcopy⟩ := hs.exists_copy hunclashing hq hqName
    refine ⟨name'', content'', runnable'', hlast, ?_⟩
    exact (find_newName? hfound hname' (hs.get?_directory hset) (hs.unlinked hset name'')).2
      ⟨rfl, hcopy⟩
  · have hfile : t.isFile cwd (entryPath p e) = false := by
      rw [← Bool.not_eq_true]
      intro hfile
      obtain ⟨l', content', runnable', hfound⟩ := exists_find_of_isFile hfile
      exact hno l' content' runnable' (hiff.1 hfound)
    rw [newName?, hfile, if_neg Bool.false_ne_true]
    rfl

end Staging

open Staging in
/-- **The copies mean what the configurations mean.** Where nothing is a link, the configurations that
can be reached have different names and whole numbers only, no chain of different ones spells too long
a path or one into the staging directory, and none has the name of a temporary file, every
configuration has a copy in which entries that led to configurations lead to their copies, and all
else is the same. -/
theorem stageConfig_copies {h h' : Host} {t : FileTree} {dir : Location} {source staging copy : Path}
    (hmade : h.files.makeDirectories h.directory staging = (t, .ok ())) (hlinkless : t.Linkless)
    (hset : Setting t h.directory dir source staging) (hshort : Short t h.directory source)
    (hunclashing : Unclashing t h.directory source h.processId)
    (hnames : DistinctNames t h.directory source)
    (hwhole : ∀ l content runnable v, Reachable t h.directory source l →
      t.get? l = some (.file content runnable) → valueOf? content = some v → v.IsWhole)
    (hrun : (stageConfig source staging).run.run h = (.ok copy, h')) :
    ∀ l, Reachable t h.directory source l →
      ∃ name content runnable content' runnable', l.getLast? = some name ∧
        t.get? l = some (.file content runnable) ∧
        h'.files.get? (dir ++ [name]) = some (.file content' runnable') ∧
        CopyOf t h'.files dir l content content' := by
  obtain ⟨s, hstages, rfl⟩ := exists_stages_of_run hrun
  obtain ⟨hs, -⟩ := hstages.staged hmade hset
  intro l hreachable
  -- the configuration has been read, so that some copy stands under its name
  have hmet : l.path ∈ s.met := by
    rw [hs.met]
    exact (hs.mem_readKeys_iff hlinkless hset hshort _).2 ⟨l, hreachable, rfl⟩
  obtain ⟨p, hread, _, content, runnable, name, _, hfind, -, hname⟩ :=
    hs.exists_read hset (hreachable.isProper hset.proper) hmet
  obtain ⟨key', p', content', runnable', hwrite, hname', hcopy⟩ := hs.exists_copy hunclashing hread hname
  have hlast := getLast?_of_find hlinkless hfind hname
  refine ⟨name, content, runnable, content', runnable', hlast, FileTree.get?_of_find hfind, hcopy, ?_⟩
  -- and it is a copy of this configuration, as there is only one of that name
  obtain ⟨hread', before, hbefore, hcontent, -⟩ := hs.write key' p' content' hwrite
  obtain ⟨_, l', _, _, _, hspelled', hfind', -, -, hname''⟩ := hs.read key' p' hread'
  cases hname'.symm.trans hname''
  obtain rfl : l' = l := hnames l' l (hspelled'.reachable hlinkless hshort hfind') hreachable
    ((getLast?_of_find hlinkless hfind' hname').trans hlast.symm)
  cases (FileTree.get?_of_find hfind).symm.trans (FileTree.get?_of_find hfind')
  cases (read_of_find hfind').symm.trans hbefore
  subst hcontent
  refine ⟨fun hnone => copyContent_of_none hnone, fun v hv => ?_⟩
  refine configAs_copyContent hv (hwhole _ _ _ v hreachable (FileTree.get?_of_find hfind) hv) fun e he => ?_
  rw [renamed_renamesFor he]
  exact hs.entryAs hlinkless hset hshort hunclashing hwrite hfind' he

/-! ### The copies of two configurations that extend each other -/

section Ring

open Staging FileTree

/-- The places of two configurations that extend each other. -/
def ringPlaces : List Location :=
  [[['w'], "main.json".toList], [['w'], "sub".toList, "base.json".toList]]

theorem ringPlaces_evaluated :
    ((withStaging ringTree).find [['w']] "main.json").toOption.map Prod.fst =
        some [['w'], "main.json".toList] ∧
      (∀ l ∈ ringPlaces, ∀ l' ∈ successors (withStaging ringTree) l, l' ∈ ringPlaces) ∧
      ∀ l ∈ ringPlaces, wholeAt (withStaging ringTree) l = true := by
  decide +kernel

theorem mem_ringPlaces {l : Location} (h : Reachable (withStaging ringTree) [['w']] "main.json" l) :
    l ∈ ringPlaces := by
  obtain ⟨hstart, hclosed, -⟩ := ringPlaces_evaluated
  refine h.mem_of_closed (fun start e hfind => ?_) hclosed
  rw [hfind] at hstart
  obtain rfl : start = [['w'], "main.json".toList] := Option.some.inj hstart
  exact List.mem_cons_self

theorem distinctNames_ringTree : DistinctNames (withStaging ringTree) [['w']] "main.json" := by
  have hall : ∀ l ∈ ringPlaces, ∀ l' ∈ ringPlaces, l.getLast? = l'.getLast? → l = l' := by decide
  exact fun l l' hl hl' => hall l (mem_ringPlaces hl) l' (mem_ringPlaces hl')

/-- Two configurations that extend each other are copied. -/
theorem stageConfig_copies_ring :
    ∃ h', (stageConfig "main.json" "out").run.run (stagingHost ringTree) = (.ok "out/main.json", h') ∧
      ∀ l, Reachable (withStaging ringTree) [['w']] "main.json" l →
        ∃ name content runnable content' runnable', l.getLast? = some name ∧
          (withStaging ringTree).get? l = some (.file content runnable) ∧
          h'.files.get? ([['w'], "out".toList] ++ [name]) = some (.file content' runnable') ∧
          CopyOf (withStaging ringTree) h'.files [['w'], "out".toList] l content content' := by
  obtain ⟨h', hrun⟩ := run_ringTree
  obtain ⟨-, -, hwhole⟩ := ringPlaces_evaluated
  exact ⟨h', hrun, stageConfig_copies (h := stagingHost ringTree) makeDirectories_ringTree
    linkless_ringTree setting_ringTree short_ringTree unclashing_ringTree distinctNames_ringTree
    (fun l _ _ _ hl => isWhole_of_wholeAt (hwhole l (mem_ringPlaces hl))) hrun⟩

end Ring

/-! ### A path that gets too long -/

section Detour

open Staging FileTree

theorem unclashing_detour : Unclashing (withStaging detourTree) [['w']] detour 1 :=
  unclashing_of_spellings 2 spellings_detour (fun q hq => (spelled_detour.2.2 q hq).2.1) 1

theorem distinctNames_detour : DistinctNames (withStaging detourTree) [['w']] detour := by
  have hall : ∀ l ∈ detourPlaces, ∀ l' ∈ detourPlaces, l.getLast? = l'.getLast? → l = l' := by decide
  exact fun l l' hl hl' => hall l (reachable_detour.1 hl) l' (reachable_detour.1 hl')

/-- A staging that succeeds and leaves out what an entry leads to, as the path that the entry makes is
too long. -/
theorem uncopied_detour :
    (withStaging detourTree).Linkless ∧
      Setting (withStaging detourTree) [['w']] [['w'], "out".toList] detour "out" ∧
      Unclashing (withStaging detourTree) [['w']] detour 1 ∧
      DistinctNames (withStaging detourTree) [['w']] detour ∧
      ∃ h', (stageConfig detour "out").run.run (stagingHost detourTree) =
          (.ok "out/main.json", h') ∧
        Reachable (withStaging detourTree) [['w']] detour [['w'], "base.json".toList] ∧
        h'.files.get? [['w'], "out".toList, "base.json".toList] = none := by
  obtain ⟨h', hrun, hnone⟩ := run_detour
  exact ⟨linkless_detourTree, setting_detour, unclashing_detour, distinctNames_detour, h', hrun,
    reachable_detour.2 (by decide), hnone⟩

end Detour

end StandardsGate
