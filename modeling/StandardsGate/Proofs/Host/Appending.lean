import StandardsGate.Proofs.Host.Places
import StandardsGate.Proofs.Host.Writing
import StandardsGate.Proofs.OrderedMap

/-!
What is added to the end of a file.

A path that leads to a file leads there still when the file has been written. So what is added to a
file that was just added to stands behind what was added before.

Main definitions:

* `FileTree.contentAt` — what the file at a location holds.

Main results:

* `FileTree.walkFrom_put` — **a file stays where a path leads to**, when it is written;
* `FileTree.append_of_find` — what is added to a file that is there;
* `FileTree.isFile_of_append`, `FileTree.find_of_append` — what the path of a file leads to when
  something was added to it;
* `FileTree.exists_parent_of_find` — the directory of a file that is found is there.
-/

namespace StandardsGate

namespace FileTree

variable {t t' : FileTree} {links : Nat} {cwd l x : Location} {p : Path} {place : Place}
  {segments : List (List Char)} {before content : Bytes} {runnable : Bool}

/-! ### What files hold -/

/-- What the file at a location holds; nothing if no file stands there. -/
def contentAt (t : FileTree) (l : Location) : Bytes :=
  match t.get? l with
  | some (.file content _) => content
  | _ => []

theorem contentAt_of_find (h : t.find cwd p = .ok (l, .file before runnable)) :
    t.contentAt l = before := by
  rw [contentAt, get?_of_find h]

theorem isFile_of_find (h : t.find cwd p = .ok (l, .file before runnable)) :
    t.isFile cwd p = true := by
  rw [isFile, h]

theorem exists_find_of_isFile (h : t.isFile cwd p = true) :
    ∃ l content runnable, t.find cwd p = .ok (l, .file content runnable) := by
  unfold isFile at h
  split at h
  · rename_i l content runnable hfind
    exact ⟨l, content, runnable, hfind⟩
  · cases h

theorem contentAt_makeDirectory (h : t.makeDirectory cwd p = .ok t') (l : Location) :
    t'.contentAt l = t.contentAt l := by
  obtain ⟨x, hwalk, rfl⟩ := makeDirectory_eq_ok h
  have hnone := get?_of_walk_free hwalk
  have hx : x ≠ [] := ne_nil_of_ne_directory (t := t) (by simp [hnone])
  rw [contentAt, contentAt, get?_put hx]
  by_cases hl : l = x
  · rw [if_pos hl, hl, hnone]
  · rw [if_neg hl]

/-- Creating directories changes no file. -/
theorem contentAt_makeDirectories (t : FileTree) (cwd : Location) (p : Path) (l : Location) :
    (t.makeDirectories cwd p).1.contentAt l = t.contentAt l := by
  have hensure : ∀ {t t' : FileTree} {p : Path}, t.ensureDirectory cwd p = .ok t' →
      t'.contentAt l = t.contentAt l := by
    intro t t' p h
    unfold ensureDirectory at h
    split at h
    · rename_i hmake
      cases h
      exact contentAt_makeDirectory hmake l
    · split at h <;> cases h
      rfl
  fun_induction makeDirectories t cwd p with
  | case1 => rfl
  | case2 p _ t' hmake => exact contentAt_makeDirectory hmake l
  | case3 => rfl
  | case4 p _ _ q _ t' e hq ih => rw [hq] at ih; exact ih
  | case5 p _ _ q _ t' hq t'' hp ih =>
      rw [hq] at ih
      exact (hensure hp).trans ih
  | case6 p _ _ q _ t' hq e hp ih => rw [hq] at ih; exact ih
  | case7 => rfl

/-! ### Writing to where a path leads -/

/-- How a walk ends that has led to a place, once a file was written there: at the file. One that is
new may not be found: its path may end in a slash, by way of a link. -/
def EndsAtPut (t : FileTree) (x : Location) (content : Bytes) (runnable : Bool) (links : Nat)
    (l : Location) (segments : List (List Char)) : Prop :=
  (t.put x (.file content runnable)).walkFrom true links l segments =
      .ok (.taken x (.file content runnable)) ∨
    (∃ fault, (t.put x (.file content runnable)).walkFrom true links l segments = .error fault) ∧
      ∀ before runnable', t.get? x ≠ some (.file before runnable')

/-- A walk that comes to the file ends there, or fails since it cannot go on. -/
theorem endsAtPut_self (hx : x ≠ []) (content : Bytes) (runnable : Bool) (links : Nat)
    {rest : List (List Char)}
    (hrest : ∀ before runnable', t.get? x = some (.file before runnable') → rest = []) :
    EndsAtPut t x content runnable links x rest := by
  have hget : (t.put x (.file content runnable)).get? x = some (.file content runnable) := by
    rw [get?_put hx, if_pos rfl]
  cases rest with
  | nil => exact .inl (walkFrom_nil_of_some hget)
  | cons s rest =>
      exact .inr ⟨⟨_, walkFrom_of_ne_directory (by simp [hget])⟩,
        fun before runnable' hfile => by cases hrest before runnable' hfile⟩

/-- **A file stays where a path leads to**, when it is written. -/
theorem walkFrom_put (hx : t.get? x ≠ some .directory) (content : Bytes) (runnable : Bool)
    (links : Nat) (l : Location) (segments : List (List Char)) {place : Place}
    (h : t.walkFrom true links l segments = .ok place) (hplace : place.location = x) :
    EndsAtPut t x content runnable links l segments := by
  have hne : x ≠ [] := ne_nil_of_ne_directory hx
  have hget : (t.put x (.file content runnable)).get? x = some (.file content runnable) := by
    rw [get?_put hne, if_pos rfl]
  have hother : ∀ {y e}, t.get? y = some e → y ≠ x →
      (t.put x (.file content runnable)).get? y = some e := by
    intro y e hy hyx
    rw [get?_put hne, if_neg hyx, hy]
  have hkept : ∀ {y}, t.get? y = some .directory →
      (t.put x (.file content runnable)).get? y = some .directory :=
    fun hy => hother hy (by rintro rfl; exact hx hy)
  revert h
  refine walkFrom_induct (t := t) (motive := fun links l segments =>
      t.walkFrom true links l segments = .ok place → EndsAtPut t x content runnable links l segments)
    ?done ?blocked ?idle ?up ?long ?missing ?entry ?link links l segments
  case done =>
    intro links l h
    rw [walkFrom_nil] at h
    cases he : t.get? l with
    | none => rw [he] at h; cases h
    | some e =>
        rw [he] at h
        cases h
        rw [show l = x from hplace]
        exact .inl (walkFrom_nil_of_some hget)
  case blocked => intro links l s rest hl h; rw [walkFrom_of_ne_directory hl] at h; cases h
  case idle =>
    intro links l s rest hl hs ih h
    rw [EndsAtPut, walkFrom_of_isIdle (hkept hl) hs]
    exact ih (by rwa [walkFrom_of_isIdle hl hs] at h)
  case up =>
    intro links l rest hl ih h
    rw [EndsAtPut, walkFrom_up (hkept hl)]
    exact ih (by rwa [walkFrom_up hl] at h)
  case long => intro links l s rest hl hs hlong h; rw [walkFrom_of_tooLong hl hs hlong] at h; cases h
  case missing =>
    intro links l s rest hl hs hshort hnone h
    rw [walkFrom_of_none hl hs hshort hnone] at h
    split at h <;> cases h
    have hls : l ++ [s] = x := hplace
    rw [EndsAtPut, walkFrom_of_entry (hkept hl) hs hshort (by rw [hls, hget]) rfl, hls]
    exact endsAtPut_self hne content runnable links fun before runnable' hfile => by
      rw [← hls, hnone] at hfile
      cases hfile
  case entry =>
    intro links l s rest e hl hs hshort he hlink ih h
    rw [walkFrom_of_entry hl hs hshort he hlink] at h
    by_cases hls : l ++ [s] = x
    · rw [EndsAtPut, walkFrom_of_entry (hkept hl) hs hshort (by rw [hls, hget]) rfl, hls]
      refine endsAtPut_self hne content runnable links fun before runnable' hfile => ?_
      cases rest with
      | nil => rfl
      | cons s' rest =>
          rw [walkFrom_of_ne_directory (by rw [hls]; exact hx)] at h
          cases h
    · rw [EndsAtPut, walkFrom_of_entry (hkept hl) hs hshort (hother he hls) hlink]
      exact ih h
  case link =>
    intro links l s rest target hl hs hshort he ih h
    by_cases hls : l ++ [s] = x
    · rw [EndsAtPut, walkFrom_of_entry (hkept hl) hs hshort (by rw [hls, hget]) rfl, hls]
      rw [hls] at he
      exact endsAtPut_self hne content runnable links fun before runnable' hfile => by
        rw [he] at hfile
        cases hfile
    · cases links with
      | zero => rw [walkFrom_of_link_zero hl hs hshort he (.inr rfl)] at h; cases h
      | succ fewer =>
          rw [EndsAtPut, walkFrom_of_link_succ (hkept hl) hs hshort (hother he hls) (.inr rfl)]
          exact ih fewer rfl (by rwa [walkFrom_of_link_succ hl hs hshort he (.inr rfl)] at h)

/-- The path of a file still leads to it when it has been written. -/
theorem find_put_file (h : t.find cwd p = .ok (x, .file before runnable)) (content : Bytes)
    (runnable' : Bool) :
    (t.put x (.file content runnable')).find cwd p = .ok (x, .file content runnable') := by
  have hx := get?_of_find h
  obtain ⟨hspeakable, hwalk⟩ := walk_eq_ok_iff.1 (find_eq_ok_iff_walk.1 h)
  refine find_eq_ok_iff_walk.2 (walk_eq_ok_iff.2 ⟨hspeakable, ?_⟩)
  have hdir : t.get? x ≠ some .directory := by simp [hx]
  exact (walkFrom_put hdir content runnable' _ _ _ hwalk rfl).resolve_right
    fun hfailed => hfailed.2 _ _ hx

/-- What is added to goes where its path leads, behind what the file there holds. -/
theorem append_eq_ok (h : t.append cwd p content = .ok t') :
    (directoryPart p).2 = true ∧ ∃ place runnable, t.walk true cwd p = .ok place ∧
      place.TakesFile t cwd p ∧ t.get? place.location ≠ some .directory ∧
      t' = t.put place.location (.file (t.contentAt place.location ++ content) runnable) := by
  obtain ⟨place, hwritable, h⟩ := exists_of_bind_eq_ok h
  obtain ⟨hnamed, hwalk, hplace⟩ := writable_eq_ok hwritable
  refine ⟨hnamed, place, ?_⟩
  cases place with
  | free l =>
      have hl := get?_of_walk_free hwalk
      refine ⟨false, hwalk, hplace, by simp [Place.location, hl], ?_⟩
      rw [Place.location, contentAt, hl]
      exact (Except.ok.inj h).symm
  | taken l e =>
      have hl := get?_of_walk_taken hwalk
      obtain ⟨before, runnable, rfl⟩ := id hplace
      refine ⟨runnable, hwalk, hplace, by simp [Place.location, hl], ?_⟩
      rw [Place.location, contentAt, hl]
      exact (Except.ok.inj h).symm

/-- A file that is there can be written. -/
theorem writable_of_find (hnamed : (directoryPart p).2 = true)
    (h : t.find cwd p = .ok (l, .file before runnable)) :
    t.writable cwd p = .ok (.taken l (.file before runnable)) := by
  unfold writable
  dsimp only
  rw [hnamed, find_eq_ok_iff_walk.1 h]
  rfl

/-- What is added to a file that is there. -/
theorem append_of_find (hnamed : (directoryPart p).2 = true)
    (h : t.find cwd p = .ok (l, .file before runnable)) (content : Bytes) :
    t.append cwd p content = .ok (t.put l (.file (before ++ content) runnable)) := by
  rw [append, writable_of_find hnamed h]
  rfl

/-- A file that is there gets another content. -/
theorem create_of_find (hnamed : (directoryPart p).2 = true)
    (h : t.find cwd p = .ok (l, .file before runnable)) (content : Bytes) :
    t.create cwd p content = .ok (t.put l (.file content runnable)) := by
  rw [create, writable_of_find hnamed h]
  rfl

theorem put_put (t : FileTree) (l : Location) (e e' : Entry) :
    (t.put l e).put l e' = t.put l e' :=
  congrArg FileTree.mk (t.entries.insert_insert l e e')

/-- What is added in two pieces may be added in one. -/
theorem append_append_of_find (hnamed : (directoryPart p).2 = true)
    (h : t.find cwd p = .ok (l, .file before runnable)) (content content' : Bytes) :
    (do (← t.append cwd p content).append cwd p content') =
      t.append cwd p (content ++ content') := by
  rw [append_of_find hnamed h, append_of_find hnamed h]
  change (t.put l (.file (before ++ content) runnable)).append cwd p content' = _
  rw [append_of_find hnamed (find_put_file h _ _), put_put, List.append_assoc]

/-- **The path of a file leads to a file** when something was added to it, also if it was created. -/
theorem isFile_of_append (h : t.append cwd p content = .ok t') : t'.isFile cwd p = true := by
  obtain ⟨-, place, runnable, hwalk, hplace, hx, rfl⟩ := append_eq_ok h
  cases place with
  | taken l e =>
      obtain ⟨before, runnable', rfl⟩ := hplace
      exact isFile_of_find (find_put_file (find_eq_ok_iff_walk.2 hwalk) _ _)
  | free l =>
      -- the walk leads to the file that was created, whatever it holds
      obtain ⟨x, found, runnable', hfound⟩ := exists_find_of_isFile hplace
      obtain ⟨-, hwalk⟩ := walk_eq_ok_iff.1 hwalk
      obtain ⟨hspeakable, hwalk'⟩ := walk_eq_ok_iff.1 (find_eq_ok_iff_walk.1 hfound)
      rcases walkFrom_put hx [] false _ _ _ hwalk rfl with hends | ⟨⟨fault, hfault⟩, -⟩
      · have hthere := find_eq_ok_iff_walk.2 (walk_eq_ok_iff.2 ⟨hspeakable, hends⟩)
        have hput := find_put_file hthere (t.contentAt l ++ content) runnable
        rw [put_put] at hput
        exact isFile_of_find hput
      · cases hfault.symm.trans hwalk'

/-- What the path of a file leads to when something was added to it. -/
theorem find_of_append (h : t.append cwd p content = .ok t') (hfile : t'.isFile cwd p = true) :
    ∃ l runnable, t'.find cwd p = .ok (l, .file (t.contentAt l ++ content) runnable) := by
  obtain ⟨-, place, runnable, hwalk, -, hx, rfl⟩ := append_eq_ok h
  refine ⟨place.location, runnable, ?_⟩
  obtain ⟨hspeakable, hwalk⟩ := walk_eq_ok_iff.1 hwalk
  refine find_eq_ok_iff_walk.2 (walk_eq_ok_iff.2 ⟨hspeakable, ?_⟩)
  refine (walkFrom_put hx _ runnable _ _ _ hwalk rfl).resolve_right ?_
  rintro ⟨⟨fault, hfault⟩, -⟩
  obtain ⟨x, found, runnable', hfound⟩ := exists_find_of_isFile hfile
  cases hfault.symm.trans (walk_eq_ok_iff.1 (find_eq_ok_iff_walk.1 hfound)).2

/-! ### The directory of a file -/

/-- A path that has to end in a name has that name. -/
theorem exists_fileName_of_named (h : (directoryPart p).2 = true) :
    ∃ name, p.fileName? = some name := by
  have hfirst : ((Text.splitOn '/' p.chars).reverse.dropWhile List.isEmpty).reverse <+:
      Text.splitOn '/' p.chars := by
    rw [← List.reverse_suffix, List.reverse_reverse]
    exact List.dropWhile_suffix _
  unfold directoryPart at h
  dsimp only at h
  split at h
  · rename_i s hlast
    simp only [Bool.and_eq_true, decide_eq_true_eq, bne_iff_ne, ne_eq] at h
    obtain ⟨⟨hlength, hdot⟩, hup⟩ := h
    have hsome : s ≠ [] := by
      rintro rfl
      rw [List.getLast?_reverse] at hlast
      have := List.head?_dropWhile_not List.isEmpty (Text.splitOn '/' p.chars).reverse
      rw [hlast] at this
      cases this
    rw [hfirst.eq_of_length hlength] at hlast
    refine ⟨s, Path.fileName?_eq_some_iff.2 ⟨?_, hup⟩⟩
    obtain ⟨front, hfront⟩ := List.getLast?_eq_some_iff.1 hlast
    rw [Path.steps, hfront, List.filter_append,
      List.filter_cons_of_pos (by simp [Path.isIdle, hsome, hdot]),
      List.filter_nil, List.getLast?_concat]
  · cases h

/-- The directory of a file that is found is there. -/
theorem exists_parent_of_find (hnamed : (directoryPart p).2 = true)
    (h : t.find cwd p = .ok (l, .file before runnable)) {parent : Path}
    (hparent : p.parent? = some parent) :
    (parent.chars.isEmpty || t.exists? cwd parent) = true := by
  obtain ⟨name, hname⟩ := exists_fileName_of_named hnamed
  obtain ⟨parent', hparent', hsteps, hroot⟩ := Path.exists_parent hname
  obtain rfl := Option.some.inj (hparent.symm.trans hparent')
  by_cases hne : parent.chars = []
  · simp [hne]
  obtain ⟨⟨hnull, -, hshort⟩, -⟩ := find_eq_ok_iff.1 h
  obtain ⟨init, between, left, dir, -, hinit, hfront, hdir, -⟩ := exists_last_of_find h hname
  obtain ⟨more, hchars⟩ := Path.parent?_isPrefix hparent
  rw [← hchars] at hnull hshort
  rw [byteCount_append] at hshort
  have hfind : t.find cwd parent = .ok (dir, .directory) := by
    refine find_eq_ok_iff.2 ⟨⟨fun hmem => hnull (List.mem_append_left _ hmem), hne, by omega⟩,
      ⟨between, ?_⟩, hdir⟩
    have hstart : linkStart cwd parent = linkStart cwd p := by rw [linkStart, linkStart, hroot]
    rw [hstart]
    exact hfront.of_filter_eq hdir (hinit.trans hsteps.symm)
  rw [exists?, hfind]
  simp [Except.isOk, Except.toBool]

end FileTree

end StandardsGate
