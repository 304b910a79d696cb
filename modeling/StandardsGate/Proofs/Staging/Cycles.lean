import StandardsGate.Proofs.Staging.Copies

/-!
Copies that extend each other.

Copies are told by their names only: configurations of one name share a copy. So an edge of the graph
of copies stands for an edge of the graph of configurations in which those of one name are taken for
one, as long as no entry that led to no file finds a copy. Copies extend each other in a circle only
if there is a circle of names.

Main definitions:

* `Staging.ExtendsFrom`, `Staging.NameExtends` — the graph of configurations, and that of their names;
* `Staging.CopyExtends` — the graph of copies;
* `Staging.StaysUnresolved` — no entry that leads to no file finds a copy;
* `ClosesCircle` — copies extend each other in a circle though configurations do not.

Main results:

* `Staging.acyclic_nameExtends` — where a name tells which configuration is meant, a circle of names
  is one of configurations;
* `stageConfig_acyclic` — **copies extend each other in a circle only if their names do**.
-/

namespace StandardsGate

namespace Staging

open FileTree

variable {t t' : FileTree} {cwd dir l l' x y : Location} {source staging : Path} {process : Nat}
  {s : Progress} {name name' : List Char}

/-- Whether an entry of a configuration leads to another one, by paths that a chain spells. -/
def ExtendsFrom (t : FileTree) (cwd : Location) (source : Path) (l l' : Location) : Prop :=
  ∃ visited p content runnable content' runnable' e, Spelled t cwd source visited p ∧
    t.find cwd p = .ok (l, .file content runnable) ∧ e ∈ extendsEntries content ∧
    t.find cwd (entryPath p e) = .ok (l', .file content' runnable')

/-- Whether an entry of a configuration of one name leads to one of another name. -/
def NameExtends (t : FileTree) (cwd : Location) (source : Path) (name name' : List Char) : Prop :=
  ∃ visited p l content runnable e, Spelled t cwd source visited p ∧
    t.find cwd p = .ok (l, .file content runnable) ∧ l ∉ visited ∧ p.fileName? = some name ∧
    e ∈ extendsEntries content ∧ t.isFile cwd (entryPath p e) = true ∧
    (entryPath p e).fileName? = some name'

/-- Whether an entry of a copy leads to another copy. -/
def CopyExtends (t' : FileTree) (dir l l' : Location) : Prop :=
  Location.Inside dir l ∧ Location.Inside dir l' ∧ Extends t' l l'

/-- Whether no entry that leads to no file leads to a copy in the end. -/
def StaysUnresolved (t t' : FileTree) (cwd dir : Location) (source : Path) : Prop :=
  ∀ visited p l content runnable e, Spelled t cwd source visited p →
    t.find cwd p = .ok (l, .file content runnable) → e ∈ extendsEntries content →
    t.isFile cwd (entryPath p e) = false → ∀ l' content' runnable',
      t'.find dir (.ofString e) = .ok (l', .file content' runnable') → ¬ Location.Inside dir l'

/-- Whether the name by which a file is reached tells which file it is. -/
def NamesTell (t : FileTree) (cwd : Location) (source : Path) : Prop :=
  ∀ name l l', ReachedAs t cwd source l name → ReachedAs t cwd source l' name → l = l'

theorem exists_extendsFrom_of_nameExtends (h : NameExtends t cwd source name name') :
    ∃ l l', ReachedAs t cwd source l name ∧ ReachedAs t cwd source l' name' ∧
      ExtendsFrom t cwd source l l' := by
  obtain ⟨visited, p, l, content, runnable, e, hspelled, hfind, hnew, hname, he, hfile, hname'⟩ := h
  obtain ⟨l', content', runnable', hfind'⟩ := exists_find_of_isFile hfile
  exact ⟨l, l', ⟨visited, p, content, runnable, hspelled, hfind, hname⟩,
    ⟨_, _, content', runnable', .entry hspelled hfind hname hnew he, hfind', hname'⟩,
    visited, p, content, runnable, content', runnable', e, hspelled, hfind, he, hfind'⟩

/-- Where a name tells which configuration is meant, a way along names is one along configurations
that have them. -/
theorem transGen_extendsFrom_of_nameExtends (hnames : NamesTell t cwd source)
    (h : Relation.TransGen (NameExtends t cwd source) name name') :
    ∃ l l', ReachedAs t cwd source l name ∧ ReachedAs t cwd source l' name' ∧
      Relation.TransGen (ExtendsFrom t cwd source) l l' := by
  induction h with
  | single hedge =>
      obtain ⟨l, l', hl, hl', hextends⟩ := exists_extendsFrom_of_nameExtends hedge
      exact ⟨l, l', hl, hl', .single hextends⟩
  | tail _ hedge ih =>
      obtain ⟨l, between, hl, hbetween, hway⟩ := ih
      obtain ⟨between', l', hbetween', hl', hextends⟩ := exists_extendsFrom_of_nameExtends hedge
      obtain rfl := hnames _ _ _ hbetween hbetween'
      exact ⟨l, l', hl, hl', hway.tail hextends⟩

/-- Where a name tells which configuration is meant, names extend each other in a circle only if
configurations do. -/
theorem acyclic_nameExtends (hnames : NamesTell t cwd source)
    (hacyclic : ∀ l, ¬ Relation.TransGen (ExtendsFrom t cwd source) l l) (name : List Char) :
    ¬ Relation.TransGen (NameExtends t cwd source) name name := by
  intro hcircle
  obtain ⟨l, l', hl, hl', hway⟩ := transGen_extendsFrom_of_nameExtends hnames hcircle
  obtain rfl := hnames _ _ _ hl hl'
  exact hacyclic l hway

/-- An edge between copies is one between their names. -/
theorem Staged.nameExtends_of_copyExtends (hset : Setting t cwd dir source staging)
    (hempty : ∀ l, Location.Inside dir l → t.get? l = none)
    (hunresolved : StaysUnresolved t s.host.files cwd dir source)
    (hs : Staged t cwd dir source process s) (h : CopyExtends s.host.files dir x y) :
    ∃ name name', x = dir ++ [name] ∧ y = dir ++ [name'] ∧ NameExtends t cwd source name name' := by
  obtain ⟨hx, hy, content, runnable, content', runnable', e', hget, he', hfound⟩ := h
  rcases hs.inside x _ hx hget with hold | ⟨key, p, name, copied, runnable'', hwrite, hname, rfl, hfile⟩
  · cases (hempty x hx).symm.trans hold
  cases hfile
  rw [List.dropLast_concat] at hfound
  obtain ⟨hread, before, hbefore, hcontent, hentries⟩ := hs.write key p _ hwrite
  obtain ⟨visited, l, _, runnable₀, _, hspelled, hfind, hnew, -, -⟩ := hs.read key p hread
  cases (read_of_find hfind).symm.trans hbefore
  -- what the copy extends are the entries of the source under new names
  obtain ⟨e, he, rfl⟩ : ∃ e ∈ extendsEntries before,
      renamed (renamesFor t cwd p (extendsEntries before)) e = e' := by
    rcases extendsEntries_copyContent before (renamesFor t cwd p (extendsEntries before)) with
      hmap | ⟨hnil, -⟩
    · rw [hcontent, hmap] at he'
      exact List.mem_map.1 he'
    · rw [hcontent, hnil] at he'
      cases he'
  rw [renamed_renamesFor he] at hfound
  cases hfile : t.isFile cwd (entryPath p e) with
  | true =>
      obtain ⟨l', _, _, name', hentry, -, hname'⟩ := hentries e he hfile
      obtain ⟨rfl, -⟩ := (find_newName? hentry hname' (hs.get?_directory hset)
        (hs.unlinked hset name')).1 hfound
      exact ⟨name, name', rfl, rfl, visited, p, l, before, runnable₀, e, hspelled, hfind, hnew, hname,
        he, hfile, hname'⟩
  | false =>
      rw [newName?, hfile, if_neg Bool.false_ne_true] at hfound
      exact absurd hy (hunresolved _ _ _ _ _ e hspelled hfind he hfile _ _ _ hfound)

end Staging

open Staging in
/-- **Copies extend each other in a circle only if their names do**, provided that no entry that led to
no file leads to a copy. -/
theorem stageConfig_acyclic {h h' : Host} {t : FileTree} {dir : Location}
    {source staging copy : Path}
    (hmade : h.files.makeDirectories h.directory staging = (t, .ok ()))
    (hset : Setting t h.directory dir source staging)
    (hempty : ∀ l, Location.Inside dir l → t.get? l = none)
    (hacyclic : ∀ name, ¬ Relation.TransGen (NameExtends t h.directory source) name name)
    (hrun : (stageConfig source staging).run.run h = (.ok copy, h'))
    (hunresolved : StaysUnresolved t h'.files h.directory dir source) (l : Location) :
    ¬ Relation.TransGen (CopyExtends h'.files dir) l l := by
  obtain ⟨s, hstages, rfl⟩ := exists_stages_of_run hrun
  obtain ⟨hs, -⟩ := hstages.staged hmade hset
  have hway : ∀ {x y}, Relation.TransGen (CopyExtends s.host.files dir) x y →
      ∃ name name', x = dir ++ [name] ∧ y = dir ++ [name'] ∧
        Relation.TransGen (NameExtends t h.directory source) name name' := by
    intro x y hxy
    induction hxy with
    | single hedge =>
        obtain ⟨name, name', hx, hy, hextends⟩ :=
          hs.nameExtends_of_copyExtends hset hempty hunresolved hedge
        exact ⟨name, name', hx, hy, .single hextends⟩
    | tail _ hedge ih =>
        obtain ⟨name, between, hx, hbetween, hway⟩ := ih
        obtain ⟨between', name', hbetween', hy, hextends⟩ :=
          hs.nameExtends_of_copyExtends hset hempty hunresolved hedge
        obtain rfl : between = between' := by simpa using hbetween.symm.trans hbetween'
        exact ⟨name, name', hx, hy, hway.tail hextends⟩
  intro hcircle
  obtain ⟨name, name', hl, hl', hnames⟩ := hway hcircle
  obtain rfl : name = name' := by simpa using hl.symm.trans hl'
  exact hacyclic name hnames

/-! ### Circles that are checked -/

namespace Staging

open FileTree

variable {t : FileTree} {cwd : Location} {source p : Path} {name name' : List Char}

/-- The entries by which a configuration leads to files. -/
def followed (t : FileTree) (cwd : Location) (p : Path) : List String :=
  match t.find cwd p with
  | .ok (_, .file content _) => (extendsEntries content).filter fun e => t.isFile cwd (entryPath p e)
  | _ => []

theorem mem_followed {l : Location} {content : Bytes} {runnable : Bool} {e : String}
    (hfind : t.find cwd p = .ok (l, .file content runnable)) (he : e ∈ extendsEntries content)
    (hfile : t.isFile cwd (entryPath p e) = true) : e ∈ followed t cwd p := by
  rw [followed, hfind]
  exact List.mem_filter.2 ⟨he, hfile⟩

/-- There is no circle where all edges are one and the same. -/
theorem not_transGen_of_single {α : Type} {r : α → α → Prop} {a b : α} (hne : a ≠ b)
    (h : ∀ x y, r x y → x = a ∧ y = b) (x : α) : ¬ Relation.TransGen r x x := by
  intro hcircle
  obtain ⟨y, hfirst, -⟩ := Relation.TransGen.head'_iff.1 hcircle
  obtain ⟨z, -, hlast⟩ := Relation.TransGen.tail'_iff.1 hcircle
  exact hne ((h x y hfirst).1.symm.trans (h z x hlast).2)

theorem acyclic_nameExtends_of_spellings {a b : List Char} (n : Nat)
    (hend : spellings t cwd source n = []) (hne : a ≠ b)
    (h : ∀ q ∈ (List.range n).flatMap (spellings t cwd source), ∀ e ∈ followed t cwd q.2,
      q.2.fileName? = some a ∧ (entryPath q.2 e).fileName? = some b) :
    ∀ name, ¬ Relation.TransGen (NameExtends t cwd source) name name := by
  refine not_transGen_of_single hne ?_
  rintro name name' ⟨visited, p, l, content, runnable, e, hspelled, hfind, -, hname, he, hfile, hname'⟩
  obtain ⟨ha, hb⟩ := forall_of_spellings (P := fun q => ∀ e ∈ followed t cwd q.2, _ ∧ _) n hend h
    hspelled e (mem_followed hfind he hfile)
  exact ⟨Option.some.inj (hname.symm.trans ha), Option.some.inj (hname'.symm.trans hb)⟩

theorem acyclic_extendsFrom_of_spellings {a b : Location} (n : Nat)
    (hend : spellings t cwd source n = []) (hne : a ≠ b)
    (h : ∀ q ∈ (List.range n).flatMap (spellings t cwd source), ∀ e ∈ followed t cwd q.2,
      (t.find cwd q.2).toOption.map Prod.fst = some a ∧
        (t.find cwd (entryPath q.2 e)).toOption.map Prod.fst = some b) :
    ∀ l, ¬ Relation.TransGen (ExtendsFrom t cwd source) l l := by
  refine not_transGen_of_single hne ?_
  rintro l l' ⟨visited, p, content, runnable, content', runnable', e, hspelled, hfind, he, hfind'⟩
  obtain ⟨ha, hb⟩ := forall_of_spellings (P := fun q => ∀ e ∈ followed t cwd q.2, _ ∧ _) n hend h
    hspelled e (mem_followed hfind he (isFile_of_find hfind'))
  dsimp only at ha hb
  rw [hfind] at ha
  rw [hfind'] at hb
  exact ⟨Option.some.inj ha, Option.some.inj hb⟩

theorem staysUnresolved_of_spellings {t' : FileTree} {dir : Location} (n : Nat)
    (hend : spellings t cwd source n = [])
    (h : ∀ q ∈ (List.range n).flatMap (spellings t cwd source),
      ∀ content ∈ ((t.read cwd q.2).toOption).toList, ∀ e ∈ extendsEntries content,
        t.isFile cwd (entryPath q.2 e) = true ∨ t'.isFile dir (.ofString e) = false) :
    StaysUnresolved t t' cwd dir source := by
  intro visited p l content runnable e hspelled hfind he hfile l' content' runnable' hfind'
  have hread : content ∈ (t.read cwd p).toOption.toList := by
    rw [read_of_find hfind]
    exact List.mem_singleton.2 rfl
  have hchecked := forall_of_spellings
    (P := fun q => ∀ content ∈ ((t.read cwd q.2).toOption).toList, ∀ e ∈ extendsEntries content, _ ∨ _)
    n hend h hspelled content hread e he
  rcases hchecked with hyes | hno
  · cases hyes.symm.trans hfile
  · cases hno.symm.trans (isFile_of_find hfind')

end Staging

section Chain

open Staging FileTree

/-- A configuration that extends another one. -/
def chainTree : FileTree := nestedTree "\x7b\x7d"

theorem chainTree_evaluated :
    (chainTree.makeDirectories [['w']] "out").2.toOption = some () ∧
      (∀ e ∈ (withStaging chainTree).entries.entries,
        e.2.isLink = false ∧ ¬ Location.Inside [['w'], "out".toList] e.1) ∧
      ((withStaging chainTree).find [['w']] "out/.").toOption =
        some ([['w'], "out".toList], .directory) ∧
      ((stageConfig "main.json" "out").run.run (stagingHost chainTree)).1.toOption =
        some "out/main.json" ∧
      (∀ q ∈ (List.range 2).flatMap (spellings (withStaging chainTree) [['w']] "main.json"),
        ∀ content ∈ ((withStaging chainTree).read [['w']] q.2).toOption.toList,
          ∀ e ∈ extendsEntries content,
            (withStaging chainTree).isFile [['w']] (entryPath q.2 e) = true ∨
              ((stageConfig "main.json" "out").run.run (stagingHost chainTree)).2.files.isFile
                [['w'], "out".toList] (.ofString e) = false) ∧
      (spellings (withStaging chainTree) [['w']] "main.json" 2).isEmpty = true ∧
      ∀ q ∈ (List.range 2).flatMap (spellings (withStaging chainTree) [['w']] "main.json"),
        (withStaging chainTree).Avoids [['w']] [['w'], "out".toList] q.2 ∧
          ∀ e ∈ followed (withStaging chainTree) [['w']] q.2,
            q.2.fileName? = some "main.json".toList ∧
              (entryPath q.2 e).fileName? = some "base.json".toList := by
  decide +kernel

/-- The copies of a configuration and of what it extends do not extend each other. -/
theorem stageConfig_acyclic_chain :
    ∃ h', (stageConfig "main.json" "out").run.run (stagingHost chainTree) =
        (.ok "out/main.json", h') ∧
      ∀ l, ¬ Relation.TransGen (CopyExtends h'.files [['w'], "out".toList]) l l := by
  obtain ⟨hmade, hentries, hdir, hresult, hunresolved, hempty, hspelled⟩ := chainTree_evaluated
  have hend := List.isEmpty_iff.1 hempty
  have hset : Setting (withStaging chainTree) [['w']] [['w'], "out".toList] "main.json" "out" :=
    setting_of_spellings 2 hend (by decide) (linkless_of_entries fun e he => (hentries e he).1)
      (eq_ok_of_toOption hdir) fun q hq => (hspelled q hq).1
  obtain ⟨h', hrun⟩ := exists_pair_of_toOption hresult
  rw [hrun] at hunresolved
  exact ⟨h', hrun, stageConfig_acyclic (h := stagingHost chainTree) (makeDirectories_out hmade) hset
    (fun l hl => get?_inside_of_entries (fun e he => (hentries e he).2) hl)
    (acyclic_nameExtends_of_spellings (a := "main.json".toList) (b := "base.json".toList) 2 hend
      (by decide) fun q hq => (hspelled q hq).2) hrun
    (staysUnresolved_of_spellings 2 hend hunresolved)⟩

end Chain
/-! ### Copies that extend each other -/

section Circle

open Staging FileTree

/-- Whether configurations do not extend each other in a circle, but their copies do. -/
def ClosesCircle (t : FileTree) (source copy : Path) : Prop :=
  Setting (withStaging t) [['w']] [['w'], "out".toList] source "out" ∧
    (∀ l, Location.Inside [['w'], "out".toList] l → (withStaging t).get? l = none) ∧
    (∀ l, ¬ Relation.TransGen (ExtendsFrom (withStaging t) [['w']] source) l l) ∧
    ∃ h' l, (stageConfig source "out").run.run (stagingHost t) = (.ok copy, h') ∧
      Relation.TransGen (CopyExtends h'.files [['w'], "out".toList]) l l

variable {t : FileTree} {source copy : Path}

theorem closesCircle_of_spellings {a b x y : Location} (n : Nat) (hne : a ≠ b)
    (hentries : ∀ e ∈ (withStaging t).entries.entries,
      e.2.isLink = false ∧ ¬ Location.Inside [['w'], "out".toList] e.1)
    (hdir : ((withStaging t).find [['w']] "out/.").toOption =
      some ([['w'], "out".toList], .directory))
    (hspelled : (spellings (withStaging t) [['w']] source n).isEmpty = true ∧
      ∀ q ∈ (List.range n).flatMap (spellings (withStaging t) [['w']] source),
        (withStaging t).Avoids [['w']] [['w'], "out".toList] q.2 ∧
          ∀ e ∈ followed (withStaging t) [['w']] q.2,
            ((withStaging t).find [['w']] q.2).toOption.map Prod.fst = some a ∧
              ((withStaging t).find [['w']] (entryPath q.2 e)).toOption.map Prod.fst = some b)
    (hx : Location.Inside [['w'], "out".toList] x) (hy : Location.Inside [['w'], "out".toList] y)
    (hdone : ((stageConfig source "out").run.run (stagingHost t)).1.toOption = some copy ∧
      y ∈ successors ((stageConfig source "out").run.run (stagingHost t)).2.files x ∧
      x ∈ successors ((stageConfig source "out").run.run (stagingHost t)).2.files y) :
    ClosesCircle t source copy := by
  have hend := List.isEmpty_iff.1 hspelled.1
  obtain ⟨hresult, hxy, hyx⟩ := hdone
  obtain ⟨h', hrun⟩ := exists_pair_of_toOption hresult
  rw [hrun] at hxy hyx
  refine ⟨setting_of_spellings n hend (by decide) (linkless_of_entries fun e he => (hentries e he).1)
      (eq_ok_of_toOption hdir) fun q hq => (hspelled.2 q hq).1,
    fun l hl => get?_inside_of_entries (fun e he => (hentries e he).2) hl,
    acyclic_extendsFrom_of_spellings n hend hne fun q hq => (hspelled.2 q hq).2, h', x, hrun, ?_⟩
  exact .tail (.single ⟨hx, hy, extends_iff_mem_successors.2 hxy⟩)
    ⟨hy, hx, extends_iff_mem_successors.2 hyx⟩

/-- A configuration that extends one of the same name. -/
def twinTree : FileTree :=
  (((FileTree.empty.put [['w']] .directory).put [['w'], ".eslintrc.json".toList]
    (.file (Utf8.encode "\x7b\"extends\": \"sub/.eslintrc.json\"\x7d") false)).put
    [['w'], "sub".toList] .directory).put [['w'], "sub".toList, ".eslintrc.json".toList]
    (.file (Utf8.encode "\x7b\x7d") false)

/-- A configuration that extends one with an entry that leads to no file. -/
def astrayTree : FileTree := nestedTree "\x7b\"extends\": \"main.json\"\x7d"

/-- Two configurations of one name share a copy, which extends itself. An entry that led to no file
leads to a copy, so that two copies extend each other. -/
theorem closesCircle_twinTree_astrayTree :
    ClosesCircle twinTree ".eslintrc.json" "out/.eslintrc.json" ∧
      ClosesCircle astrayTree "main.json" "out/main.json" := by
  constructor
  · exact closesCircle_of_spellings (a := [['w'], ".eslintrc.json".toList])
      (b := [['w'], "sub".toList, ".eslintrc.json".toList])
      (x := [['w'], "out".toList, ".eslintrc.json".toList])
      (y := [['w'], "out".toList, ".eslintrc.json".toList]) 2 (by decide +kernel)
      (by decide +kernel) (by decide +kernel) (by decide +kernel) (by decide +kernel)
      (by decide +kernel) (by decide +kernel)
  · exact closesCircle_of_spellings (a := [['w'], "main.json".toList])
      (b := [['w'], "sub".toList, "base.json".toList])
      (x := [['w'], "out".toList, "main.json".toList])
      (y := [['w'], "out".toList, "base.json".toList]) 3 (by decide +kernel)
      (by decide +kernel) (by decide +kernel) (by decide +kernel) (by decide +kernel)
      (by decide +kernel) (by decide +kernel)

end Circle

end StandardsGate
