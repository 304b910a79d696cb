import StandardsGate.Proofs.Host.Appending
import StandardsGate.Proofs.Host.Walking

/-!
Directories in which a file is replaced.

A file may take the place of another file, of a link or of nothing. The directories of the tree and
its other links stay as they are. So a path to an entry of a directory leads to that entry still;
only if its way went through the link that is gone, it leads nowhere. Whatever is done with such a
path either is done to that entry or fails.

Main definitions:

* `FileTree.Beside` — whether a path spells an entry of a directory;
* `FileTree.SameWaysBut` — trees with the same directories and links, but for a place where a file
  may have come;
* `FileTree.IsBare` — whether a place has neither a directory nor a link;
* `FileTree.IsBarred` — whether something stands in the way of a walk.

Main results:

* `FileTree.Leads.of_sameWaysBut` — **the way to a directory stays, or it is barred**;
* `FileTree.walk_of_sameWaysBut` — where a path to an entry leads;
* `FileTree.create_of_sameWaysBut`, `FileTree.append_of_sameWaysBut`,
  `FileTree.rename_of_sameWaysBut`, `FileTree.remove_of_sameWaysBut` — what file operations do to an
  entry, if they succeed;
* `FileTree.find_of_create` — a file that was created is found.
-/

namespace StandardsGate

namespace FileTree

variable {t t' t'' : FileTree} {followLast : Bool} {links left : Nat} {cwd dir l x : Location}
  {directory p q : Path} {m n : List Char} {segments : List (List Char)} {content before : Bytes}
  {runnable : Bool}

/-! ### Entries of a directory -/

/-- Whether a path spells a directory and an entry of it, from the same start. -/
def Beside (directory : Path) (n : List Char) (p : Path) : Prop :=
  p.isAbsolute = directory.isAbsolute ∧ ∃ front, Text.splitOn '/' p.chars = front ++ [n] ∧
    front.filter (fun s => !Path.isIdle s) = directory.steps

theorem beside_join {base : Path} (hsteps : base.steps = directory.steps)
    (hroot : base.isAbsolute = directory.isAbsolute) (hn : Path.IsPlainName n) :
    Beside directory n (base.join ⟨n⟩) := by
  obtain ⟨front, hfront, hsplit⟩ := Path.exists_splitOn_join base
  refine ⟨by rw [Path.isAbsolute_join hn.isAbsolute, hroot], front, ?_, hfront.trans hsteps⟩
  rw [hsplit _ hn.isAbsolute, hn.splitOn]

/-- A directory, and what of its path counts for finding it. -/
theorem leads_of_find_dot (hdir : t.find cwd (directory.join ⟨['.']⟩) = .ok (dir, .directory))
    {segments : List (List Char)}
    (hsteps : segments.filter (fun s => !Path.isIdle s) = directory.steps) :
    ∃ left, t.Leads linkLimit (linkStart cwd directory) segments left dir := by
  obtain ⟨-, ⟨left, hleads⟩, hget⟩ := find_eq_ok_iff.1 hdir
  have hstart : linkStart cwd (directory.join ⟨['.']⟩) = linkStart cwd directory := by
    rw [linkStart, linkStart, Path.isAbsolute_join (by decide)]
  rw [hstart] at hleads
  refine ⟨left, hleads.of_filter_eq hget ?_⟩
  have hjoin : (directory.join ⟨['.']⟩).steps = directory.steps ++ Path.steps ⟨['.']⟩ :=
    Path.steps_join (by decide)
  have hdot : Path.steps ⟨['.']⟩ = [] := by decide
  rw [hdot, List.append_nil] at hjoin
  exact hjoin.trans hsteps.symm

theorem any_isLink_eq_false {l : Location} (h : ∀ target, t.get? l ≠ some (.link target)) :
    (t.get? l).any Entry.isLink = false := by
  cases he : t.get? l with
  | none => rfl
  | some e =>
      cases e with
      | file | directory => rfl
      | link target => exact absurd he (h target)

theorem location_placeAt (t : FileTree) (l : Location) : (t.placeAt l).location = l := by
  unfold placeAt
  split <;> rfl

/-- A file in the place of a file leaves directories and links as they are. -/
theorem sameWays_put {l : Location} (hl : l ≠ []) (hdir : t.get? l ≠ some .directory)
    (hlink : ∀ target, t.get? l ≠ some (.link target)) (content : Bytes) (runnable : Bool) :
    SameWays t (t.put l (.file content runnable)) := by
  intro x e he
  rw [get?_put hl]
  split
  · rename_i hx
    subst hx
    refine iff_of_false ?_ ?_
    · intro hget
      cases e with
      | file => rcases he with he | he <;> cases he
      | directory => exact hdir hget
      | link target => exact hlink target hget
    · intro hfile
      cases hfile
      rcases he with he | he <;> cases he
  · exact Iff.rfl

/-! ### Ways -/

/-- Whether the same directories and links stand in two trees, but for one place, where a file may
have come in the second. -/
structure SameWaysBut (x : Location) (t t' : FileTree) : Prop where
  away : ∀ l ≠ x, ∀ e : Entry, e = .directory ∨ e.isLink = true →
    (t.get? l = some e ↔ t'.get? l = some e)
  here : t'.get? x = t.get? x ∨
    t.get? x ≠ some .directory ∧ ∃ content runnable, t'.get? x = some (.file content runnable)

theorem SameWaysBut.refl (x : Location) (t : FileTree) : SameWaysBut x t t :=
  ⟨fun _ _ _ _ => Iff.rfl, .inl rfl⟩

theorem SameWaysBut.directory_iff (h : SameWaysBut x t t') (l : Location) :
    t.get? l = some .directory ↔ t'.get? l = some .directory := by
  by_cases hl : l = x
  · subst hl
    rcases h.here with hsame | ⟨hdir, content, runnable, hfile⟩
    · rw [hsame]
    · exact iff_of_false hdir (by simp [hfile])
  · exact h.away l hl _ (.inl rfl)

/-- A link that is there now was there before. -/
theorem SameWaysBut.of_link (h : SameWaysBut x t t') {target : Path}
    (hl : t'.get? l = some (.link target)) : t.get? l = some (.link target) := by
  by_cases hx : l = x
  · subst hx
    rcases h.here with hsame | ⟨-, content, runnable, hfile⟩
    · rwa [← hsame]
    · rw [hfile] at hl
      cases hl
  · exact (h.away l hx _ (.inr rfl)).2 hl

/-- Where a link was, it still is, or a file has come. -/
theorem SameWaysBut.link_or_file (h : SameWaysBut x t t') {target : Path}
    (hl : t.get? l = some (.link target)) :
    t'.get? l = some (.link target) ∨ ∃ content runnable, t'.get? l = some (.file content runnable) := by
  by_cases hx : l = x
  · subst hx
    rcases h.here with hsame | ⟨-, hfile⟩
    · exact .inl (hsame.trans hl)
    · exact .inr hfile
  · exact .inl ((h.away l hx _ (.inr rfl)).1 hl)

/-- Neither a directory nor a link. -/
def IsBare (t : FileTree) (l : Location) : Prop :=
  t.get? l ≠ some .directory ∧ ∀ target, t.get? l ≠ some (.link target)

theorem SameWaysBut.put (h : SameWaysBut x t t') (hdir : t'.get? l ≠ some .directory)
    (hbare : l = x ∨ t'.IsBare l) (content : Bytes) (runnable : Bool) :
    SameWaysBut x t (t'.put l (.file content runnable)) := by
  have hne := ne_nil_of_ne_directory hdir
  refine ⟨fun y hy e he => ?_, ?_⟩
  · rw [get?_put hne, h.away y hy e he]
    split
    · rename_i hyl
      subst hyl
      obtain ⟨-, hlink⟩ := hbare.resolve_left hy
      rcases he with rfl | he
      · exact iff_of_false hdir (by simp)
      · cases e with
        | link target => exact iff_of_false (hlink target) (by simp)
        | file | directory => cases he
    · exact Iff.rfl
  · rw [get?_put hne]
    split
    · rename_i hxl
      subst hxl
      exact .inr ⟨mt (h.directory_iff x).1 hdir, content, runnable, rfl⟩
    · exact h.here

theorem SameWaysBut.erase (h : SameWaysBut x t t') (hx : l ≠ x) (hbare : t'.IsBare l) :
    SameWaysBut x t (t'.erase l) := by
  have hne := ne_nil_of_ne_directory hbare.1
  refine ⟨fun y hy e he => ?_, ?_⟩
  · rw [get?_erase hne, h.away y hy e he]
    split
    · rename_i hyl
      subst hyl
      rcases he with rfl | he
      · exact iff_of_false hbare.1 (by simp)
      · cases e with
        | link target => exact iff_of_false (hbare.2 target) (by simp)
        | file | directory => cases he
    · exact Iff.rfl
  · rw [get?_erase hne, if_neg (Ne.symm hx)]
    exact h.here

/-- Whether something that is no directory stands in the way: walks along segments end there, or with
the last segment. -/
def IsBarred (t : FileTree) (links : Nat) (l : Location) (segments : List (List Char)) : Prop :=
  ∀ followLast rest, t.walkFrom followLast links l (segments ++ rest) = .error .notDirectory ∨
    rest = [] ∧ ∃ x e, t.walkFrom followLast links l segments = .ok (.taken x e)

/-- What is barred does not lead on. -/
theorem IsBarred.walkFrom_ne_ok (h : t.IsBarred links l segments) {rest : List (List Char)}
    (hne : rest ≠ []) (followLast : Bool) (place : Place) :
    t.walkFrom followLast links l (segments ++ rest) ≠ .ok place := by
  rcases h followLast rest with herror | ⟨hnil, -⟩
  · rw [herror]
    exact nofun
  · exact absurd hnil hne

/-- What bars the way of the target bars the way through a link. -/
theorem IsBarred.link {s : List Char} {rest : List (List Char)} {target : Path}
    (hl : t.get? l = some .directory) (hs : Path.IsEntryName s) (hshort : byteCount s ≤ nameLimit)
    (he : t.get? (l ++ [s]) = some (.link target))
    (h : t.IsBarred links (linkStart l target) (Text.splitOn '/' target.chars ++ rest)) :
    t.IsBarred (links + 1) l (s :: rest) := by
  intro followLast rest'
  rw [List.cons_append]
  by_cases hfollow : rest ++ rest' ≠ [] ∨ followLast = true
  · rw [walkFrom_of_link_succ hl hs hshort he hfollow, ← List.append_assoc]
    refine (h followLast rest').imp_right ?_
    rintro ⟨rfl, hend⟩
    rw [List.append_nil] at hfollow
    exact ⟨rfl, by rwa [walkFrom_of_link_succ hl hs hshort he hfollow]⟩
  · -- the link itself is the end
    obtain ⟨hnil, hlast⟩ : rest ++ rest' = [] ∧ followLast = false := by simpa using hfollow
    obtain ⟨rfl, rfl⟩ := List.append_eq_nil_iff.1 hnil
    subst hlast
    exact .inr ⟨rfl, _, _, walkFrom_of_last_link hl hs hshort he⟩

/-- A file bars the way. -/
theorem isBarred_of_file {s : List Char} {content : Bytes} {runnable : Bool}
    (hl : t.get? l = some .directory) (hs : Path.IsEntryName s) (hshort : byteCount s ≤ nameLimit)
    (he : t.get? (l ++ [s]) = some (.file content runnable)) (links : Nat)
    (rest : List (List Char)) : t.IsBarred links l (s :: rest) := by
  intro followLast rest'
  rw [List.cons_append, walkFrom_of_entry hl hs hshort he rfl]
  cases hall : rest ++ rest' with
  | nil =>
      obtain ⟨rfl, rfl⟩ := List.append_eq_nil_iff.1 hall
      refine .inr ⟨rfl, l ++ [s], .file content runnable, ?_⟩
      rw [walkFrom_of_entry hl hs hshort he rfl]
      exact walkFrom_nil_of_some he
  | cons s' more => exact .inl (walkFrom_of_ne_directory (by simp [he]))

/-- **The way to a directory stays, or it is barred.** -/
theorem Leads.of_sameWaysBut (h : t.Leads links l segments left dir) (hways : SameWaysBut x t t')
    (hdir : t.get? dir = some .directory) :
    t'.Leads links l segments left dir ∨ t'.IsBarred links l segments := by
  have hkept : ∀ {l}, t.get? l = some .directory → t'.get? l = some .directory :=
    fun hl => (hways.directory_iff _).1 hl
  induction h with
  | here => exact .inl (.here _ _)
  | idle hl hs _ ih =>
      refine (ih hdir).imp (.idle (hkept hl) hs) fun hbarred followLast rest => ?_
      rw [List.cons_append, walkFrom_of_isIdle (hkept hl) hs, walkFrom_of_isIdle (hkept hl) hs]
      exact hbarred followLast rest
  | up hl _ ih =>
      refine (ih hdir).imp (.up (hkept hl)) fun hbarred followLast rest => ?_
      rw [List.cons_append, walkFrom_up (hkept hl), walkFrom_up (hkept hl)]
      exact hbarred followLast rest
  | @entry _ _ l _ s rest _ hl hs hshort he hlink more ih =>
      -- what is walked through is a directory
      have hentry : t.get? (l ++ [s]) = some .directory := by
        cases rest with
        | nil => cases more; exact hdir
        | cons s' rest => exact more.isDirectory (by simp)
      refine (ih hdir).imp (.entry (hkept hl) hs hshort (hkept hentry) rfl)
        fun hbarred followLast rest => ?_
      rw [List.cons_append, walkFrom_of_entry (hkept hl) hs hshort (hkept hentry) rfl,
        walkFrom_of_entry (hkept hl) hs hshort (hkept hentry) rfl]
      exact hbarred followLast rest
  | link hl hs hshort he _ ih =>
      obtain hlink | ⟨content, runnable, hfile⟩ := hways.link_or_file he
      · exact (ih hdir).imp (.link (hkept hl) hs hshort hlink) (.link (hkept hl) hs hshort hlink)
      · exact .inr (isBarred_of_file (hkept hl) hs hshort hfile _ _)

/-! ### Paths to an entry -/

/-- What something is renamed to does not end in a segment that counts for nothing. -/
theorem rename_isIdle_getLast (h : t.rename cwd p q = .ok t') (hne : q.chars ≠ []) :
    Path.isIdle ((Text.splitOn '/' q.chars).getLast (Text.splitOn_ne_nil '/' q.chars)) = false := by
  obtain ⟨source, -, h⟩ := exists_of_bind_eq_ok h
  cases source with
  | free l => cases h
  | taken l e =>
      dsimp only at h
      rw [List.getLast?_eq_some_getLast (Text.splitOn_ne_nil '/' q.chars)] at h
      generalize (Text.splitOn '/' q.chars).getLast _ = last at h
      split at h
      · obtain ⟨_, -, hthrow⟩ := exists_of_bind_eq_ok h
        cases hthrow
      rename_i hdots
      split at h
      · cases h
      rename_i hempty
      simp_all [Path.isIdle]

/-- A path that something was renamed to ends in its name. -/
theorem beside_of_rename (h : t.rename cwd p q = .ok t') (hname : q.fileName? = some n)
    (hparent : q.parent? = some directory) : Beside directory n q := by
  have hchars : q.chars ≠ [] := by
    intro hnil
    rw [show q = ⟨[]⟩ from congrArg Path.mk hnil] at hname
    cases hname
  obtain ⟨parent, hsome, hsteps, hroot⟩ := Path.exists_parent hname
  obtain rfl : parent = directory := Option.some.inj (hsome.symm.trans hparent)
  obtain ⟨init, hsplit, hinit⟩ :=
    Path.exists_splitOn_of_fileName? hname (rename_isIdle_getLast h hchars)
  exact ⟨hroot.symm, init, hsplit, hinit.trans hsteps.symm⟩

section Entry

variable (hdir : t.find cwd (directory.join ⟨['.']⟩) = .ok (dir, .directory))
  (hways : SameWaysBut x t t')
include hdir hways

/-- **Where a path to an entry of a directory leads**, if it leads anywhere. -/
theorem walk_of_sameWaysBut (hp : Beside directory m p) (hm : Path.IsPlainName m)
    (hlink : followLast = true → ∀ target, t'.get? (dir ++ [m]) ≠ some (.link target))
    {place : Place} (h : t'.walk followLast cwd p = .ok place) :
    place = t'.placeAt (dir ++ [m]) := by
  obtain ⟨hroot, front, hsplit, hfront⟩ := hp
  obtain ⟨left, hleads⟩ := leads_of_find_dot hdir hfront
  have hget := (hways.directory_iff dir).1 (get?_of_find hdir)
  have hstart : linkStart cwd p = linkStart cwd directory := by rw [linkStart, linkStart, hroot]
  obtain ⟨-, hwalk⟩ := walk_eq_ok_iff.1 h
  rw [hsplit, hstart] at hwalk
  rcases hleads.of_sameWaysBut hways (get?_of_find hdir) with hleads' | hbarred
  · rw [hleads'.walkFrom_append (by simp)] at hwalk
    rcases Nat.lt_or_ge nameLimit (byteCount m) with hlong | hshort
    · rw [walkFrom_of_tooLong hget hm.1 hlong] at hwalk
      cases hwalk
    · by_cases hany : ∃ target, t'.get? (dir ++ [m]) = some (.link target)
      · obtain ⟨target, he⟩ := hany
        cases followLast with
        | true => exact absurd he (hlink rfl target)
        | false =>
            rw [walkFrom_of_last_link hget hm.1 hshort he] at hwalk
            rw [placeAt, he]
            exact (Except.ok.inj hwalk).symm
      · rw [walkFrom_last hget hm.1 hshort (any_isLink_eq_false (not_exists.1 hany))] at hwalk
        exact (Except.ok.inj hwalk).symm
  · exact absurd hwalk (hbarred.walkFrom_ne_ok (by simp) followLast place)

theorem create_of_sameWaysBut (hp : Beside directory m p) (hm : Path.IsPlainName m)
    (hlink : ∀ target, t'.get? (dir ++ [m]) ≠ some (.link target))
    (h : t'.create cwd p content = .ok t'') :
    t'.get? (dir ++ [m]) ≠ some .directory ∧
      ∃ runnable, t'' = t'.put (dir ++ [m]) (.file content runnable) := by
  obtain ⟨place, runnable, hwalk, hget, ht⟩ := create_eq_ok h
  rw [walk_of_sameWaysBut hdir hways hp hm (fun _ => hlink) hwalk, location_placeAt] at hget ht
  exact ⟨hget, runnable, ht⟩

theorem append_of_sameWaysBut (hp : Beside directory m p) (hm : Path.IsPlainName m)
    (hfile : t'.get? (dir ++ [m]) = some (.file before runnable))
    (h : t'.append cwd p content = .ok t'') :
    ∃ runnable', t'' = t'.put (dir ++ [m]) (.file (before ++ content) runnable') := by
  obtain ⟨-, place, runnable', hwalk, -, -, ht⟩ := append_eq_ok h
  rw [walk_of_sameWaysBut hdir hways hp hm (fun _ => by simp [hfile]) hwalk, location_placeAt,
    contentAt, hfile] at ht
  exact ⟨runnable', ht⟩

/-- A file or link is taken away, or nothing is. -/
theorem remove_of_sameWaysBut (hp : Beside directory m p) (hm : Path.IsPlainName m) :
    t'.remove cwd p = t' ∨
      t'.get? (dir ++ [m]) ≠ some .directory ∧ t'.remove cwd p = t'.erase (dir ++ [m]) := by
  cases hwalk : t'.walk false cwd p with
  | error fault => exact .inl (by rw [remove, hwalk])
  | ok place =>
      have hplace := walk_of_sameWaysBut hdir hways hp hm (fun h => by cases h) hwalk
      have hget : ∀ l e, place = .taken l e → t'.get? l = some e :=
        fun l e h => get?_of_walk_taken (h ▸ hwalk)
      have hlocation : place.location = dir ++ [m] := by rw [hplace, location_placeAt]
      cases place with
      | free l => exact .inl (by rw [remove, hwalk])
      | taken l e =>
          obtain rfl : l = dir ++ [m] := hlocation
          cases e with
          | directory => exact .inl (by rw [remove, hwalk])
          | file | link => exact .inr ⟨by simp [hget _ _ rfl], by rw [remove, hwalk]⟩

theorem rename_of_sameWaysBut (hp : Beside directory m p) (hm : Path.IsPlainName m)
    (hq : Beside directory n q) (hn : Path.IsPlainName n) (hne : m ≠ n) {e : Entry}
    (he : t'.get? (dir ++ [m]) = some e) (h : t'.rename cwd p q = .ok t'') :
    t'.get? (dir ++ [n]) ≠ some .directory ∧
      t'' = (t'.erase (dir ++ [m])).put (dir ++ [n]) e := by
  obtain ⟨l, e', place, hsource, htarget, hover, ht⟩ := rename_eq_ok h
  have hsource' := walk_of_sameWaysBut hdir hways hp hm (fun h => by cases h) hsource
  rw [placeAt, he, Place.taken.injEq] at hsource'
  obtain ⟨rfl, rfl⟩ := hsource'
  have htarget' : place.location = dir ++ [n] := by
    rw [walk_of_sameWaysBut hdir hways hq hn (fun h => by cases h) htarget, location_placeAt]
  rw [htarget'] at hover ht
  rw [if_neg (by simpa using hne)] at ht
  exact ⟨hover, ht⟩

end Entry

/-! ### Entries that are there -/

section Found

variable (hdir : t.find cwd (directory.join ⟨['.']⟩) = .ok (dir, .directory))
  (hp : Beside directory m p) (hm : Path.IsPlainName m)
include hdir hp hm

theorem byteCount_le_of_walk {place : Place} (h : t.walk followLast cwd p = .ok place) :
    byteCount m ≤ nameLimit := by
  obtain ⟨hroot, front, hsplit, hfront⟩ := hp
  obtain ⟨left, hleads⟩ := leads_of_find_dot hdir hfront
  obtain ⟨-, hwalk⟩ := walk_eq_ok_iff.1 h
  rw [hsplit, linkStart, hroot, ← linkStart, hleads.walkFrom_append (by simp)] at hwalk
  by_contra hlong
  rw [walkFrom_of_tooLong (get?_of_find hdir) hm.1 (Nat.lt_of_not_le hlong)] at hwalk
  cases hwalk

/-- An entry of a directory is found. -/
theorem find_of_beside (hspeakable : Speakable p) (hshort : byteCount m ≤ nameLimit) {e : Entry}
    (he : t.get? (dir ++ [m]) = some e) (hlink : e.isLink = false) :
    t.find cwd p = .ok (dir ++ [m], e) := by
  obtain ⟨hroot, front, hsplit, hfront⟩ := hp
  obtain ⟨left, hleads⟩ := leads_of_find_dot hdir hfront
  refine find_eq_ok_iff.2 ⟨hspeakable, ⟨left, ?_⟩, he⟩
  rw [hsplit, linkStart, hroot, ← linkStart]
  exact hleads.append (.entry (get?_of_find hdir) hm.1 hshort he hlink (.here _ _))

/-- A file that was created is found. -/
theorem find_of_create (hlink : ∀ target, t.get? (dir ++ [m]) ≠ some (.link target))
    (h : t.create cwd p content = .ok t') :
    ∃ runnable, t' = t.put (dir ++ [m]) (.file content runnable) ∧ (directoryPart p).2 = true ∧
      t'.find cwd p = .ok (dir ++ [m], .file content runnable) := by
  obtain ⟨place, hwritable, -⟩ := exists_of_bind_eq_ok h
  obtain ⟨hnamed, hwalk, -⟩ := writable_eq_ok hwritable
  obtain ⟨hget, runnable, rfl⟩ := create_of_sameWaysBut hdir (.refl dir t) hp hm hlink h
  have hplace : dir ++ [m] ≠ [] := by simp
  refine ⟨runnable, rfl, hnamed, ?_⟩
  refine find_of_beside (find_of_sameWays (sameWays_put hplace hget hlink content runnable) hdir) hp
    hm (walk_eq_ok_iff.1 hwalk).1 (byteCount_le_of_walk hdir hp hm hwalk) ?_ rfl
  rw [get?_put hplace, if_pos rfl]

end Found

end FileTree

end StandardsGate
