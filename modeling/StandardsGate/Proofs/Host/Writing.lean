import StandardsGate.Host.AtomicWrite
import StandardsGate.Proofs.Host.Action
import StandardsGate.Proofs.Host.Directories

/-!
What writing a file does to a tree.

A write in one piece is a number of file operations, all of which succeed if the write does. What
stands in the tree afterwards is what these operations have put there. Wherever a file is written to,
no link is made.

Main definitions:

* `FileTree.LinksFrom` — the links of a tree are those of another one.

Main results:

* `FileTree.create_eq_ok`, `FileTree.rename_eq_ok` — what a file operation that succeeds has done;
* `exists_of_writeAtomically` — the steps of a write that succeeds;
* `linksFrom_of_writeAtomically` — **a write makes no links**.
-/

namespace StandardsGate

namespace FileTree

variable {t t' t'' : FileTree} {followLast : Bool} {links : Nat} {cwd l x : Location} {e : Entry}
  {p : Path} {segments : List (List Char)} {content : Bytes}

/-- A file that can be read stands somewhere. -/
theorem exists_find_of_read (h : t.read cwd p = .ok content) :
    ∃ l runnable, t.find cwd p = .ok (l, .file content runnable) := by
  obtain ⟨⟨l, e⟩, hfind, h⟩ := exists_of_bind_eq_ok h
  cases e with
  | file content' runnable =>
      cases h
      exact ⟨l, runnable, hfind⟩
  | directory | link => cases h

/-! ### Where walks end -/

/-- Whether what is said of a place is what the tree has there. -/
def Place.IsIn (t : FileTree) : Place → Prop
  | .taken l e => t.get? l = some e
  | .free l => t.get? l = none

/-- What stands where a walk ends: an entry, or nothing. -/
theorem isIn_of_walkFrom (links : Nat) (l : Location) (segments : List (List Char)) {place : Place}
    (h : t.walkFrom followLast links l segments = .ok place) : place.IsIn t := by
  revert h
  refine walkFrom_induct (t := t) (motive := fun links l segments =>
      t.walkFrom followLast links l segments = .ok place → place.IsIn t)
    ?done ?blocked ?idle ?up ?long ?missing ?entry ?link links l segments
  case done =>
    intro links l h
    rw [walkFrom_nil] at h
    cases he : t.get? l with
    | none => rw [he] at h; cases h
    | some e => rw [he] at h; cases h; exact he
  case blocked => intro links l s rest hl h; rw [walkFrom_of_ne_directory hl] at h; cases h
  case idle => intro links l s rest hl hs ih h; exact ih (by rwa [walkFrom_of_isIdle hl hs] at h)
  case up => intro links l rest hl ih h; exact ih (by rwa [walkFrom_up hl] at h)
  case long => intro links l s rest hl hs hlong h; rw [walkFrom_of_tooLong hl hs hlong] at h; cases h
  case missing =>
    intro links l s rest hl hs hshort hnone h
    rw [walkFrom_of_none hl hs hshort hnone] at h
    split at h <;> cases h
    exact hnone
  case entry =>
    intro links l s rest e hl hs hshort he hlink ih h
    exact ih (by rwa [walkFrom_of_entry hl hs hshort he hlink] at h)
  case link =>
    intro links l s rest target hl hs hshort he ih h
    by_cases hfollow : rest ≠ [] ∨ followLast = true
    · cases links with
      | zero => rw [walkFrom_of_link_zero hl hs hshort he hfollow] at h; cases h
      | succ fewer =>
          exact ih fewer rfl (by rwa [walkFrom_of_link_succ hl hs hshort he hfollow] at h)
    · obtain ⟨rfl, hlast⟩ : rest = [] ∧ followLast = false := by simpa using hfollow
      subst hlast
      rw [walkFrom_of_last_link hl hs hshort he] at h
      cases h
      exact he

theorem get?_of_walk_taken (h : t.walk followLast cwd p = .ok (.taken x e)) : t.get? x = some e :=
  isIn_of_walkFrom _ _ _ (walk_eq_ok_iff.1 h).2

theorem get?_of_walk_free (h : t.walk followLast cwd p = .ok (.free x)) : t.get? x = none :=
  isIn_of_walkFrom _ _ _ (walk_eq_ok_iff.1 h).2

/-! ### File operations that succeed -/

/-- The location of a place. -/
def Place.location : Place → Location
  | .taken l _ => l
  | .free l => l

/-- Whether a file can be written at a place to which a path leads: it is there, or the path will lead
to it once it has been created. -/
def Place.TakesFile (t : FileTree) (cwd : Location) (p : Path) : Place → Prop
  | .taken _ e => ∃ content runnable, e = .file content runnable
  | .free l => (t.put l (.file [] false)).isFile cwd p = true

/-- A file can be written if its path ends in a name and leads to a place for it. -/
theorem writable_eq_ok {place : Place} (h : t.writable cwd p = .ok place) :
    (directoryPart p).2 = true ∧ t.walk true cwd p = .ok place ∧ place.TakesFile t cwd p := by
  unfold writable at h
  dsimp only at h
  split at h
  · obtain ⟨_, -, hthrow⟩ := exists_of_bind_eq_ok h
    cases hthrow
  · rename_i hname
    obtain ⟨found, hfound, hplace⟩ := exists_of_bind_eq_ok h
    obtain ⟨⟨-, hne, -⟩, -⟩ := walk_eq_ok_iff.1 hfound
    refine ⟨by simpa [hne] using hname, ?_⟩
    split at hplace
    · cases hplace
      exact ⟨hfound, _, _, rfl⟩
    · cases hplace
    · split at hplace
      · rename_i hfile
        cases hplace
        exact ⟨hfound, hfile⟩
      · cases hplace

/-- A file is created where its path leads to, unless a directory stands there. -/
theorem create_eq_ok (h : t.create cwd p content = .ok t') :
    ∃ place runnable, t.walk true cwd p = .ok place ∧
      t.get? place.location ≠ some .directory ∧
      t' = t.put place.location (.file content runnable) := by
  obtain ⟨place, hwritable, h⟩ := exists_of_bind_eq_ok h
  obtain ⟨-, hwalk, hplace⟩ := writable_eq_ok hwritable
  cases place with
  | free l =>
      refine ⟨_, false, hwalk, ?_, (Except.ok.inj h).symm⟩
      rw [Place.location, get?_of_walk_free hwalk]
      simp
  | taken l e =>
      obtain ⟨before, runnable, rfl⟩ := hplace
      refine ⟨_, runnable, hwalk, ?_, (Except.ok.inj h).symm⟩
      rw [Place.location, get?_of_walk_taken hwalk]
      simp

/-- What is renamed stands where it has been moved to, and no longer where it stood. -/
theorem rename_eq_ok {q : Path} (h : t.rename cwd p q = .ok t') :
    ∃ l e place, t.walk false cwd p = .ok (.taken l e) ∧ t.walk false cwd q = .ok place ∧
      t.get? place.location ≠ some .directory ∧
      t' = if l = place.location then t else (t.erase l).put place.location e := by
  obtain ⟨source, hsource, h⟩ := exists_of_bind_eq_ok h
  cases source with
  | free l => cases h
  | taken l e =>
      dsimp only at h
      split at h
      · obtain ⟨_, -, hthrow⟩ := exists_of_bind_eq_ok h
        cases hthrow
      split at h
      · cases h
      obtain ⟨place, hplace, h⟩ := exists_of_bind_eq_ok h
      cases place with
      | free l' =>
          have hne : l ≠ l' := by
            rintro rfl
            have := get?_of_walk_taken hsource
            rw [get?_of_walk_free hplace] at this
            cases this
          refine ⟨l, e, _, hsource, hplace, ?_, ?_⟩
          · rw [Place.location, get?_of_walk_free hplace]
            simp
          · rw [Place.location, if_neg hne]
            exact (Except.ok.inj h).symm
      | taken l' e' =>
          have hl' := get?_of_walk_taken hplace
          cases e' with
          | directory => cases h
          | file | link =>
              refine ⟨l, e, _, hsource, hplace, by rw [Place.location, hl']; simp, ?_⟩
              exact (Except.ok.inj h).symm

theorem makeDirectory_eq_ok (h : t.makeDirectory cwd p = .ok t') :
    ∃ l, t.walk false cwd p = .ok (.free l) ∧ t' = t.put l .directory := by
  obtain ⟨place, hplace, h⟩ := exists_of_bind_eq_ok h
  cases place with
  | taken => cases h
  | free l => exact ⟨l, hplace, (Except.ok.inj h).symm⟩

/-! ### Links -/

/-- Whether all links of a tree have stood in another one. -/
def LinksFrom (t t' : FileTree) : Prop :=
  ∀ l target, t'.get? l = some (.link target) → ∃ l', t.get? l' = some (.link target)

theorem LinksFrom.refl (t : FileTree) : LinksFrom t t := fun l _ h => ⟨l, h⟩

theorem LinksFrom.trans (h : LinksFrom t t') (h' : LinksFrom t' t'') : LinksFrom t t'' := by
  intro l target hl
  obtain ⟨l', hl'⟩ := h' l target hl
  exact h l' target hl'

theorem LinksFrom.put (he : e.isLink = false) (l : Location) : LinksFrom t (t.put l e) := by
  intro x target hx
  rcases get?_put_eq_some hx with ⟨-, rfl⟩ | hx
  · cases he
  · exact ⟨x, hx⟩

theorem LinksFrom.move (he : t.get? l = some e) (l' : Location) :
    LinksFrom t ((t.erase l).put l' e) := by
  intro x target hx
  rcases get?_put_eq_some hx with ⟨-, rfl⟩ | hx
  · exact ⟨l, he⟩
  · exact ⟨x, get?_erase_eq_some hx⟩

theorem linksFrom_of_create (h : t.create cwd p content = .ok t') : LinksFrom t t' := by
  obtain ⟨place, runnable, -, -, rfl⟩ := create_eq_ok h
  exact .put rfl _

theorem linksFrom_of_rename {q : Path} (h : t.rename cwd p q = .ok t') : LinksFrom t t' := by
  obtain ⟨l, e, place, hsource, -, -, rfl⟩ := rename_eq_ok h
  split
  · exact .refl t
  · exact .move (get?_of_walk_taken hsource) _

theorem linksFrom_of_makeDirectory (h : t.makeDirectory cwd p = .ok t') : LinksFrom t t' := by
  obtain ⟨l, -, rfl⟩ := makeDirectory_eq_ok h
  exact .put rfl _

theorem linksFrom_of_ensureDirectory (h : t.ensureDirectory cwd p = .ok t') : LinksFrom t t' := by
  unfold ensureDirectory at h
  split at h
  · rename_i hmake
    cases h
    exact linksFrom_of_makeDirectory hmake
  · split at h <;> cases h
    exact .refl t

/-- Creating directories makes no links. -/
theorem linksFrom_makeDirectories (t : FileTree) (cwd : Location) (p : Path) :
    LinksFrom t (t.makeDirectories cwd p).1 := by
  fun_induction makeDirectories t cwd p with
  | case1 => exact .refl t
  | case2 p _ t' hmake => exact linksFrom_of_makeDirectory hmake
  | case3 => exact .refl t
  | case4 p _ _ q _ t' e hq ih => rw [hq] at ih; exact ih
  | case5 p _ _ q _ t' hq t'' hp ih =>
      rw [hq] at ih
      exact ih.trans (linksFrom_of_ensureDirectory hp)
  | case6 p _ _ q _ t' hq e hp ih => rw [hq] at ih; exact ih
  | case7 => exact .refl t

end FileTree

/-! ### Writes -/

open FileTree

variable {h h' : Host} {target : Path} {content : Bytes}

/-- The steps of a write that succeeds. -/
theorem exists_of_writeAtomically (hwrite : writeAtomically h target content = (.ok (), h')) :
    ∃ t temporary created written renamed,
      ensureParent (fun _ => none) h.files h.directory target = (t, .ok ()) ∧
      temporaryPath target h.processId h.writes = .ok temporary ∧
      t.create h.directory temporary [] = .ok created ∧
      created.create h.directory temporary content = .ok written ∧
      written.rename h.directory temporary target = .ok renamed ∧
      h' = { h with files := renamed, writes := h.writes + 1 } := by
  have hguard : ∀ {α : Type} (s : WriteStep) (done : Except IoError α),
      WriteFaults.guard (fun _ => none) s done = done := fun _ _ => rfl
  unfold writeAtomically writeAtomicallyWith at hwrite
  rcases hparent : ensureParent (fun _ => none) h.files h.directory target with ⟨t, made⟩
  rw [hparent] at hwrite
  cases made with
  | error fault => cases hwrite
  | ok =>
      dsimp only at hwrite
      rw [hguard] at hwrite
      cases htemporary : temporaryPath target h.processId h.writes with
      | error fault => rw [htemporary] at hwrite; cases hwrite
      | ok temporary =>
          rw [htemporary] at hwrite
          dsimp only at hwrite
          simp only [writeTemporary, hguard] at hwrite
          cases hcreate : t.create h.directory temporary [] with
          | error fault => rw [hcreate] at hwrite; cases hwrite
          | ok created =>
              rw [hcreate] at hwrite
              dsimp only at hwrite
              cases hfill : created.create h.directory temporary content with
              | error fault => rw [hfill] at hwrite; cases hwrite
              | ok written =>
                  rw [hfill] at hwrite
                  dsimp only [Except.bind] at hwrite
                  cases hrename : written.rename h.directory temporary target with
                  | error fault => rw [hrename] at hwrite; cases hwrite
                  | ok renamed =>
                      rw [hrename] at hwrite
                      cases hwrite
                      exact ⟨t, temporary, created, written, renamed, rfl, rfl, hcreate, hfill,
                        hrename, rfl⟩

theorem linksFrom_of_ensureParent {t : FileTree} {made : Except IoError Unit}
    (hparent : ensureParent (fun _ => none) h.files h.directory target = (t, made)) :
    LinksFrom h.files t := by
  unfold ensureParent at hparent
  split at hparent
  · cases hparent
    exact .refl _
  · split at hparent
    · cases hparent
      exact .refl _
    · rename_i parent _ _
      have hfiles : (h.files.makeDirectories h.directory parent).1 = t := congrArg Prod.fst hparent
      rw [← hfiles]
      exact linksFrom_makeDirectories h.files h.directory parent

/-- **A write makes no links.** -/
theorem linksFrom_of_writeAtomically (hwrite : writeAtomically h target content = (.ok (), h')) :
    LinksFrom h.files h'.files := by
  obtain ⟨t, temporary, created, written, renamed, hparent, -, hcreate, hfill, hrename, rfl⟩ :=
    exists_of_writeAtomically hwrite
  exact (linksFrom_of_ensureParent hparent).trans ((linksFrom_of_create hcreate).trans
    ((linksFrom_of_create hfill).trans (linksFrom_of_rename hrename)))

end StandardsGate
