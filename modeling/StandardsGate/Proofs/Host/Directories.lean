import StandardsGate.Proofs.Host.Trail

/-!
Where a walk leads, step by step.

A walk that follows all links and finds an entry is a chain of steps: a segment that counts for
nothing, one that leads up, one that names an entry, or one that names a link. What is to be shown of
all such walks is shown for each kind of step.

Main definitions:

* `FileTree.Leads` — segments lead from a location to another one, and leave some links;
* `FileTree.Linkless`, `FileTree.SameWays` — trees without links, trees with the same directories and
  links.

Main results:

* `FileTree.walkFrom_eq_taken_iff` — **a walk finds what its steps lead to**;
* `FileTree.Leads.append`, `FileTree.Leads.of_append` — **a walk in two parts**;
* `FileTree.Leads.of_filter_eq` — **only the segments that count matter on the way to a directory**;
* `FileTree.Leads.of_sameWays` — **only directories and links matter on the way to a directory**.
-/

namespace StandardsGate.FileTree

variable {t t' : FileTree} {followLast : Bool} {links left : Nat} {l dir x : Location} {e : Entry}
  {segments rest : List (List Char)} {cwd : Location} {p : Path}

/-! ### The steps of a walk -/

/-- Segments lead from a location to another one, with the links at hand and the links left. -/
inductive Leads (t : FileTree) : Nat → Location → List (List Char) → Nat → Location → Prop
  | here (links : Nat) (l : Location) : Leads t links l [] links l
  | idle {links left : Nat} {l x : Location} {s : List Char} {rest : List (List Char)}
      (hl : t.get? l = some .directory) (hs : Path.isIdle s = true)
      (more : Leads t links l rest left x) : Leads t links l (s :: rest) left x
  | up {links left : Nat} {l x : Location} {rest : List (List Char)}
      (hl : t.get? l = some .directory) (more : Leads t links l.dropLast rest left x) :
      Leads t links l (['.', '.'] :: rest) left x
  | entry {links left : Nat} {l x : Location} {s : List Char} {rest : List (List Char)} {e : Entry}
      (hl : t.get? l = some .directory) (hs : Path.IsEntryName s)
      (hshort : byteCount s ≤ nameLimit) (he : t.get? (l ++ [s]) = some e)
      (hlink : e.isLink = false) (more : Leads t links (l ++ [s]) rest left x) :
      Leads t links l (s :: rest) left x
  | link {links left : Nat} {l x : Location} {s : List Char} {rest : List (List Char)}
      {target : Path} (hl : t.get? l = some .directory) (hs : Path.IsEntryName s)
      (hshort : byteCount s ≤ nameLimit) (he : t.get? (l ++ [s]) = some (.link target))
      (more : Leads t links (linkStart l target) (Text.splitOn '/' target.chars ++ rest) left x) :
      Leads t (links + 1) l (s :: rest) left x

/-- **A walk finds what its steps lead to.** -/
theorem walkFrom_eq_taken_iff :
    t.walkFrom true links l segments = .ok (.taken x e) ↔
      ∃ left, t.Leads links l segments left x ∧ t.get? x = some e := by
  constructor
  · refine walkFrom_induct (t := t) (motive := fun links l segments =>
        t.walkFrom true links l segments = .ok (.taken x e) →
        ∃ left, t.Leads links l segments left x ∧ t.get? x = some e)
      ?done ?blocked ?idle ?up ?long ?missing ?entry ?link links l segments
    case done =>
      intro links l h
      rw [walkFrom_nil] at h
      cases he : t.get? l with
      | none => rw [he] at h; cases h
      | some e => rw [he] at h; cases h; exact ⟨links, .here links x, he⟩
    case blocked => intro links l s rest hl h; rw [walkFrom_of_ne_directory hl] at h; cases h
    case idle =>
      intro links l s rest hl hs ih h
      obtain ⟨left, more, hx⟩ := ih (by rwa [walkFrom_of_isIdle hl hs] at h)
      exact ⟨left, .idle hl hs more, hx⟩
    case up =>
      intro links l rest hl ih h
      obtain ⟨left, more, hx⟩ := ih (by rwa [walkFrom_up hl] at h)
      exact ⟨left, .up hl more, hx⟩
    case long =>
      intro links l s rest hl hs hlong h
      rw [walkFrom_of_tooLong hl hs hlong] at h
      cases h
    case missing =>
      intro links l s rest hl hs hshort hnone h
      rw [walkFrom_of_none hl hs hshort hnone] at h
      split at h <;> cases h
    case entry =>
      intro links l s rest e' hl hs hshort he hlink ih h
      obtain ⟨left, more, hx⟩ := ih (by rwa [walkFrom_of_entry hl hs hshort he hlink] at h)
      exact ⟨left, .entry hl hs hshort he hlink more, hx⟩
    case link =>
      intro links l s rest target hl hs hshort he ih h
      cases links with
      | zero => rw [walkFrom_of_link_zero hl hs hshort he (.inr rfl)] at h; cases h
      | succ fewer =>
          rw [walkFrom_of_link_succ hl hs hshort he (.inr rfl)] at h
          obtain ⟨left, more, hx⟩ := ih fewer rfl h
          exact ⟨left, .link hl hs hshort he more, hx⟩
  · rintro ⟨left, h, hx⟩
    induction h with
    | here => exact walkFrom_nil_of_some hx
    | idle hl hs _ ih => rw [walkFrom_of_isIdle hl hs, ih hx]
    | up hl _ ih => rw [walkFrom_up hl, ih hx]
    | entry hl hs hshort he hlink _ ih => rw [walkFrom_of_entry hl hs hshort he hlink, ih hx]
    | link hl hs hshort he _ ih => rw [walkFrom_of_link_succ hl hs hshort he (.inr rfl), ih hx]

/-- A path has to be a text that is not empty, has no null character and is not too long. -/
def Speakable (p : Path) : Prop :=
  '\x00' ∉ p.chars ∧ p.chars ≠ [] ∧ byteCount p.chars ≤ pathLimit

theorem walk_eq_ok_iff {place : Place} :
    t.walk followLast cwd p = .ok place ↔
      Speakable p ∧ t.walkFrom followLast linkLimit (linkStart cwd p) (Text.splitOn '/' p.chars) =
        .ok place := by
  have hnull : p.chars.contains '\x00' = true ↔ '\x00' ∈ p.chars := List.contains_iff_mem
  constructor
  · intro h
    unfold walk at h
    split at h
    · cases h
    rename_i hcontains
    split at h
    · cases h
    rename_i hempty
    split at h
    · cases h
    rename_i hlong
    refine ⟨⟨mt hnull.2 hcontains, by simpa using hempty, Nat.le_of_not_lt hlong⟩, ?_⟩
    rw [← linkStart] at h
    cases hwalk : t.walkFrom followLast linkLimit (linkStart cwd p) (Text.splitOn '/' p.chars) with
    | error fault => rw [hwalk] at h; cases h
    | ok place' => rw [hwalk] at h; cases h; rfl
  · rintro ⟨⟨hmem, hne, hshort⟩, h⟩
    unfold walk
    rw [if_neg (mt hnull.1 hmem), if_neg (by simpa using hne), if_neg (Nat.not_lt.2 hshort),
      ← linkStart, h]
    rfl

theorem find_eq_ok_iff_walk : t.find cwd p = .ok (x, e) ↔ t.walk true cwd p = .ok (.taken x e) := by
  unfold find
  cases hwalk : t.walk true cwd p with
  | error fault => simp [bind, Except.bind]
  | ok place =>
      cases place with
      | free => simp [bind, Except.bind, throw, throwThe, MonadExceptOf.throw]
      | taken => simp [bind, Except.bind, pure, Except.pure]

/-- What a path finds. -/
theorem find_eq_ok_iff :
    t.find cwd p = .ok (x, e) ↔ Speakable p ∧
      (∃ left, t.Leads linkLimit (linkStart cwd p) (Text.splitOn '/' p.chars) left x) ∧
      t.get? x = some e := by
  rw [find_eq_ok_iff_walk, walk_eq_ok_iff, walkFrom_eq_taken_iff, exists_and_right]

theorem get?_of_find (h : t.find cwd p = .ok (x, e)) : t.get? x = some e :=
  (find_eq_ok_iff.1 h).2.2

/-! ### One part after the other -/

theorem Leads.append (h : t.Leads links l segments left x) {left' : Nat} {x' : Location}
    (hrest : t.Leads left x rest left' x') : t.Leads links l (segments ++ rest) left' x' := by
  induction h with
  | here => exact hrest
  | idle hl hs _ ih => exact .idle hl hs (ih hrest)
  | up hl _ ih => exact .up hl (ih hrest)
  | entry hl hs hshort he hlink _ ih => exact .entry hl hs hshort he hlink (ih hrest)
  | link hl hs hshort he _ ih =>
      have hmore := ih hrest
      rw [List.append_assoc] at hmore
      exact .link hl hs hshort he hmore

/-- **A walk goes on from where its first part ends**, with the links that are left. -/
theorem Leads.walkFrom_append (h : t.Leads links l segments left x) (hne : rest ≠ []) :
    t.walkFrom followLast links l (segments ++ rest) = t.walkFrom followLast left x rest := by
  induction h with
  | here => rfl
  | idle hl hs _ ih => rw [List.cons_append, walkFrom_of_isIdle hl hs, ih]
  | up hl _ ih => rw [List.cons_append, walkFrom_up hl, ih]
  | entry hl hs hshort he hlink _ ih =>
      rw [List.cons_append, walkFrom_of_entry hl hs hshort he hlink, ih]
  | link hl hs hshort he _ ih =>
      rw [List.cons_append, walkFrom_of_link_succ hl hs hshort he (.inl (by simp [hne])),
        ← List.append_assoc, ih]

/-- **The two parts of a walk.** -/
theorem Leads.of_append {start : List (List Char)} (h : t.Leads links l (start ++ rest) left x) :
    ∃ between y, t.Leads links l start between y ∧ t.Leads between y rest left x := by
  generalize hsegments : start ++ rest = segments at h
  induction h generalizing start with
  | here links l =>
      obtain ⟨rfl, rfl⟩ := List.append_eq_nil_iff.1 hsegments
      exact ⟨links, l, .here links l, .here links l⟩
  | @idle links _ l _ s _ hl hs more ih =>
      cases start with
      | nil => cases hsegments; exact ⟨links, l, .here links l, .idle hl hs more⟩
      | cons s' start =>
          rw [List.cons_append, List.cons.injEq] at hsegments
          obtain ⟨rfl, hrest⟩ := hsegments
          obtain ⟨between, y, hstart, hmore⟩ := ih hrest
          exact ⟨between, y, .idle hl hs hstart, hmore⟩
  | @up links _ l _ _ hl more ih =>
      cases start with
      | nil => cases hsegments; exact ⟨links, l, .here links l, .up hl more⟩
      | cons s' start =>
          rw [List.cons_append, List.cons.injEq] at hsegments
          obtain ⟨rfl, hrest⟩ := hsegments
          obtain ⟨between, y, hstart, hmore⟩ := ih hrest
          exact ⟨between, y, .up hl hstart, hmore⟩
  | @entry links _ l _ s _ _ hl hs hshort he hlink more ih =>
      cases start with
      | nil => cases hsegments; exact ⟨links, l, .here links l, .entry hl hs hshort he hlink more⟩
      | cons s' start =>
          rw [List.cons_append, List.cons.injEq] at hsegments
          obtain ⟨rfl, hrest⟩ := hsegments
          obtain ⟨between, y, hstart, hmore⟩ := ih hrest
          exact ⟨between, y, .entry hl hs hshort he hlink hstart, hmore⟩
  | @link links _ l _ s _ target hl hs hshort he more ih =>
      cases start with
      | nil =>
          cases hsegments
          exact ⟨links + 1, l, .here (links + 1) l, .link hl hs hshort he more⟩
      | cons s' start =>
          rw [List.cons_append, List.cons.injEq] at hsegments
          obtain ⟨rfl, rfl⟩ := hsegments
          obtain ⟨between, y, hstart, hmore⟩ := ih (List.append_assoc ..)
          exact ⟨between, y, .link hl hs hshort he hstart, hmore⟩

/-- A walk goes on only from a directory. -/
theorem Leads.isDirectory (h : t.Leads links l segments left x) (hne : segments ≠ []) :
    t.get? l = some .directory := by
  cases h with
  | here => exact absurd rfl hne
  | idle hl | up hl | entry hl | link hl => exact hl

/-- Whether nothing in a tree is a link. -/
def Linkless (t : FileTree) : Prop := ∀ l target, t.get? l ≠ some (.link target)

/-- Where there are no links, the number of links at hand does not matter. -/
theorem Leads.of_linkless (h : t.Leads links l segments left x) (hlinkless : t.Linkless)
    (links' : Nat) : t.Leads links' l segments links' x := by
  induction h with
  | here => exact .here links' _
  | idle hl hs _ ih => exact .idle hl hs ih
  | up hl _ ih => exact .up hl ih
  | entry hl hs hshort he hlink _ ih => exact .entry hl hs hshort he hlink ih
  | link _ _ _ he => exact absurd he (hlinkless _ _)

/-! ### Segments that count for nothing -/

theorem Leads.idle_append (h : t.Leads links l rest left x) (hl : t.get? l = some .directory)
    {idle : List (List Char)} (hidle : ∀ s ∈ idle, Path.isIdle s = true) :
    t.Leads links l (idle ++ rest) left x := by
  induction idle with
  | nil => exact h
  | cons s idle ih =>
      obtain ⟨hs, hmore⟩ := List.forall_mem_cons.1 hidle
      exact .idle hl hs (ih hmore)

/-- A segment that counts stands behind some that do not. -/
theorem exists_of_filter_eq_cons {s : List Char} (hs : Path.isIdle s = false)
    (h : (s :: rest).filter (fun s => !Path.isIdle s) =
      segments.filter fun s => !Path.isIdle s) :
    ∃ idle more, segments = idle ++ s :: more ∧ (∀ s ∈ idle, Path.isIdle s = true) ∧
      rest.filter (fun s => !Path.isIdle s) = more.filter fun s => !Path.isIdle s := by
  rw [List.filter_cons_of_pos (by simp [hs])] at h
  obtain ⟨idle, more, rfl, hidle, -, hmore⟩ := List.filter_eq_cons_iff.1 h.symm
  exact ⟨idle, more, rfl, by simpa using hidle, hmore.symm⟩

/-- **Only the segments that count matter on the way to a directory.** -/
theorem Leads.of_filter_eq (h : t.Leads links l segments left dir)
    (hdir : t.get? dir = some .directory) {segments' : List (List Char)}
    (hsteps : segments.filter (fun s => !Path.isIdle s) =
      segments'.filter fun s => !Path.isIdle s) :
    t.Leads links l segments' left dir := by
  induction h generalizing segments' with
  | here links l =>
      have hidle : ∀ s ∈ segments', Path.isIdle s = true := by
        simpa using List.filter_eq_nil_iff.1 hsteps.symm
      rw [← List.append_nil segments']
      exact (Leads.here links l).idle_append hdir hidle
  | idle hl hs _ ih =>
      rw [List.filter_cons_of_neg (by simp [hs])] at hsteps
      exact ih hdir hsteps
  | up hl _ ih =>
      obtain ⟨idle, more, rfl, hidle, hmore⟩ := exists_of_filter_eq_cons (by decide) hsteps
      exact (Leads.up hl (ih hdir hmore)).idle_append hl hidle
  | entry hl hs hshort he hlink _ ih =>
      obtain ⟨idle, more, rfl, hidle, hmore⟩ := exists_of_filter_eq_cons hs.1 hsteps
      exact (Leads.entry hl hs hshort he hlink (ih hdir hmore)).idle_append hl hidle
  | link hl hs hshort he _ ih =>
      obtain ⟨idle, more, rfl, hidle, hmore⟩ := exists_of_filter_eq_cons hs.1 hsteps
      refine (Leads.link hl hs hshort he (ih hdir ?_)).idle_append hl hidle
      rw [List.filter_append, List.filter_append, hmore]

/-- A walk to something else than a directory ends with a segment that counts. -/
theorem Leads.isIdle_getLast (h : t.Leads links l segments left x)
    (hx : t.get? x ≠ some .directory) (hne : segments ≠ []) :
    Path.isIdle (segments.getLast hne) = false := by
  induction h with
  | here => exact absurd rfl hne
  | @idle _ _ _ _ _ rest hl hs more ih =>
      cases rest with
      | nil => cases more; exact absurd hl hx
      | cons s' rest => exact ih hx (by simp)
  | @up _ _ _ _ rest hl more ih =>
      cases rest with
      | nil => rfl
      | cons s' rest => exact ih hx (by simp)
  | @entry _ _ _ _ _ rest _ hl hs hshort he hlink more ih =>
      cases rest with
      | nil => exact hs.1
      | cons s' rest => exact ih hx (by simp)
  | @link _ _ _ _ _ rest target hl hs hshort he more ih =>
      cases rest with
      | nil => exact hs.1
      | cons s' rest =>
          have hlast := ih hx (by simp)
          rwa [List.getLast_append_of_ne_nil (by simp) (List.cons_ne_nil s' rest)] at hlast

/-- The last step of a path that leads to a file by a name: the path ends in the name, and what stands
before it leads to a directory. -/
theorem exists_last_of_find {content : Bytes} {runnable : Bool} {name : List Char}
    (hfind : t.find cwd p = .ok (l, .file content runnable)) (hname : p.fileName? = some name) :
    ∃ init between left dir, Text.splitOn '/' p.chars = init ++ [name] ∧
      init.filter (fun s => !Path.isIdle s) = p.steps.dropLast ∧
      t.Leads linkLimit (linkStart cwd p) init between dir ∧ t.get? dir = some .directory ∧
      t.Leads between dir [name] left l := by
  obtain ⟨-, ⟨left, hleads⟩, hget⟩ := find_eq_ok_iff.1 hfind
  have hidle := hleads.isIdle_getLast (by rw [hget]; simp) (Text.splitOn_ne_nil '/' p.chars)
  obtain ⟨init, hsplit, hinit⟩ := Path.exists_splitOn_of_fileName? hname hidle
  rw [hsplit] at hleads
  obtain ⟨between, dir, hfront, hstep⟩ := hleads.of_append
  exact ⟨init, between, left, dir, hsplit, hinit, hfront, hstep.isDirectory (List.cons_ne_nil _ _),
    hstep⟩

/-- Without links a path that leads to a file by a name leads to its directory by what stands before
the name. -/
theorem exists_directory_of_find {content : Bytes} {runnable : Bool} {name : List Char}
    (hlinkless : t.Linkless) (hfind : t.find cwd p = .ok (l, .file content runnable))
    (hname : p.fileName? = some name) :
    ∃ dir, l = dir ++ [name] ∧ t.get? dir = some .directory ∧
      ∀ segments : List (List Char), segments.filter (fun s => !Path.isIdle s) = p.steps.dropLast →
        t.Leads linkLimit (linkStart cwd p) segments linkLimit dir := by
  obtain ⟨init, between, left, dir, -, hinit, hfront, hdir, hstep⟩ := exists_last_of_find hfind hname
  obtain ⟨⟨hidle, hup⟩, -⟩ := Path.isPlainName_of_fileName? hname
  refine ⟨dir, ?_, hdir, fun segments hsegments => ?_⟩
  · cases hstep with
    | idle _ hs => cases hs.symm.trans hidle
    | up => exact absurd rfl hup
    | entry _ _ _ _ _ more => cases more; rfl
    | link _ _ _ he => exact absurd he (hlinkless _ _)
  · exact (hfront.of_filter_eq hdir (hinit.trans hsegments.symm)).of_linkless hlinkless linkLimit

/-- The name that a path to a file ends in can be looked up by itself. -/
theorem speakable_name_of_find {content : Bytes} {runnable : Bool} {name : List Char}
    (hfind : t.find cwd p = .ok (l, .file content runnable)) (hname : p.fileName? = some name) :
    byteCount name ≤ nameLimit ∧ '\x00' ∉ name := by
  obtain ⟨init, between, left, dir, hsplit, -, -, -, hstep⟩ := exists_last_of_find hfind hname
  obtain ⟨⟨hidle, hup⟩, -⟩ := Path.isPlainName_of_fileName? hname
  refine ⟨?_, fun hnull => (find_eq_ok_iff.1 hfind).1.1 ?_⟩
  · cases hstep with
    | idle _ hs => cases hs.symm.trans hidle
    | up => exact absurd rfl hup
    | entry _ _ hshort | link _ _ hshort => exact hshort
  · exact Text.subset_of_mem_splitOn (hsplit ▸ List.mem_append_right _ List.mem_cons_self) hnull

/-! ### Trees with the same directories and links -/

/-- Whether the same directories and links stand in two trees. -/
def SameWays (t t' : FileTree) : Prop :=
  ∀ l e, e = .directory ∨ e.isLink = true → (t.get? l = some e ↔ t'.get? l = some e)

/-- **Only directories and links matter on the way to a directory.** -/
theorem Leads.of_sameWays (h : t.Leads links l segments left dir) (hways : SameWays t t')
    (hdir : t.get? dir = some .directory) : t'.Leads links l segments left dir := by
  have hkept : ∀ {l}, t.get? l = some .directory → t'.get? l = some .directory :=
    fun hl => (hways _ _ (.inl rfl)).1 hl
  induction h with
  | here => exact .here _ _
  | idle hl hs _ ih => exact .idle (hkept hl) hs (ih hdir)
  | up hl _ ih => exact .up (hkept hl) (ih hdir)
  | @entry _ _ l _ s rest _ hl hs hshort he hlink more ih =>
      -- what is walked through is a directory
      have hentry : t.get? (l ++ [s]) = some .directory := by
        cases rest with
        | nil => cases more; exact hdir
        | cons s' rest => exact more.isDirectory (by simp)
      exact .entry (hkept hl) hs hshort (hkept hentry) rfl (ih hdir)
  | link hl hs hshort he _ ih =>
      exact .link (hkept hl) hs hshort ((hways _ _ (.inr rfl)).1 he) (ih hdir)

theorem find_of_sameWays (hways : SameWays t t') (h : t.find cwd p = .ok (dir, .directory)) :
    t'.find cwd p = .ok (dir, .directory) := by
  obtain ⟨hspeakable, ⟨left, hleads⟩, hdir⟩ := find_eq_ok_iff.1 h
  exact find_eq_ok_iff.2
    ⟨hspeakable, ⟨left, hleads.of_sameWays hways hdir⟩, (hways _ _ (.inl rfl)).1 hdir⟩

end StandardsGate.FileTree
