import StandardsGate.Proofs.Host.Alone

/-!
What comes of file operations in a directory.

A path spells an entry of a directory, which another path leads to. If the path can be looked up and the
name is not too long, a file operation is done to that entry, and otherwise it fails without changing
anything. So what a write in one piece comes to is known beforehand: it puts the file in its place, and
the temporary file leaves nothing behind.

Main definitions:

* `FileTree.pathFault?` — why a path to an entry of a directory cannot be looked up;
* `writeFault?` — why a file cannot be written into a directory.

Main results:

* `FileTree.exists_find_of_walk` — what a path to an entry goes through is a directory;
* `FileTree.makeDirectories_of_find` — a directory that is there is not made;
* `FileTree.create_of_none`, `FileTree.create_of_some`, `FileTree.remove_of_some`,
  `FileTree.rename_of_some` — file operations that are done;
* `FileTree.erase_put` — a new entry that is taken away again leaves nothing behind;
* `writeAtomically_of_fault`, `writeAtomically_of_fits` — **what writing into a directory comes to**.
-/

namespace StandardsGate

namespace FileTree

variable {t t' : FileTree} {followLast : Bool} {links : Nat} {cwd dir l : Location}
  {directory p q : Path} {m n : List Char} {front : List (List Char)} {content before : Bytes}
  {runnable : Bool}

/-! ### What a path goes through -/

/-- What a walk goes through before its last name is a directory. -/
theorem exists_leads_of_walkFrom (hm : Path.IsEntryName m) {place : Place}
    (h : t.walkFrom followLast links l (front ++ [m]) = .ok place) :
    ∃ left dir, t.Leads links l front left dir ∧ t.get? dir = some .directory := by
  have hempty : ∀ more : List (List Char), (more ++ [m]).all List.isEmpty = false := by
    intro more
    have hne : m ≠ [] := fun hm' => by
      rw [hm'] at hm
      exact Bool.false_ne_true hm.1.symm
    simp [hne]
  generalize hsegments : front ++ [m] = segments at h
  revert front
  revert h
  refine walkFrom_induct (t := t) (motive := fun links l segments =>
      t.walkFrom followLast links l segments = .ok place → ∀ {front}, front ++ [m] = segments →
      ∃ left dir, t.Leads links l front left dir ∧ t.get? dir = some .directory)
    ?done ?blocked ?idle ?up ?long ?missing ?entry ?link links l segments
  case done =>
    intro links l _ front hsegments
    simp at hsegments
  case blocked =>
    intro links l s rest hl h
    rw [walkFrom_of_ne_directory hl] at h
    cases h
  case idle =>
    intro links l s rest hl hs ih h front hsegments
    cases front with
    | nil => exact ⟨links, l, .here links l, hl⟩
    | cons s' front =>
        obtain ⟨rfl, hrest⟩ := List.cons.inj hsegments
        obtain ⟨left, dir, hleads, hdir⟩ := ih (by rwa [walkFrom_of_isIdle hl hs] at h) hrest
        exact ⟨left, dir, .idle hl hs hleads, hdir⟩
  case up =>
    intro links l rest hl ih h front hsegments
    cases front with
    | nil => exact ⟨links, l, .here links l, hl⟩
    | cons s' front =>
        obtain ⟨rfl, hrest⟩ := List.cons.inj hsegments
        obtain ⟨left, dir, hleads, hdir⟩ := ih (by rwa [walkFrom_up hl] at h) hrest
        exact ⟨left, dir, .up hl hleads, hdir⟩
  case long =>
    intro links l s rest hl hs hlong h
    rw [walkFrom_of_tooLong hl hs hlong] at h
    cases h
  case missing =>
    intro links l s rest hl hs hshort hnone h front hsegments
    cases front with
    | nil => exact ⟨links, l, .here links l, hl⟩
    | cons s' front =>
        -- the last name would have to be looked up in something that is not there
        rw [List.cons_append, List.cons.injEq] at hsegments
        obtain ⟨rfl, rfl⟩ := hsegments
        rw [walkFrom_of_none hl hs hshort hnone, hempty, if_neg Bool.false_ne_true] at h
        cases h
  case entry =>
    intro links l s rest e hl hs hshort he hlink ih h front hsegments
    cases front with
    | nil => exact ⟨links, l, .here links l, hl⟩
    | cons s' front =>
        obtain ⟨rfl, hrest⟩ := List.cons.inj hsegments
        obtain ⟨left, dir, hleads, hdir⟩ :=
          ih (by rwa [walkFrom_of_entry hl hs hshort he hlink] at h) hrest
        exact ⟨left, dir, .entry hl hs hshort he hlink hleads, hdir⟩
  case link =>
    intro links l s rest target hl hs hshort he ih h front hsegments
    cases front with
    | nil => exact ⟨links, l, .here links l, hl⟩
    | cons s' front =>
        rw [List.cons_append, List.cons.injEq] at hsegments
        obtain ⟨rfl, rfl⟩ := hsegments
        have hfollow : front ++ [m] ≠ [] ∨ followLast = true := .inl (by simp)
        cases links with
        | zero =>
            rw [walkFrom_of_link_zero hl hs hshort he hfollow] at h
            cases h
        | succ fewer =>
            rw [walkFrom_of_link_succ hl hs hshort he hfollow] at h
            obtain ⟨left, dir, hleads, hdir⟩ := ih fewer rfl h (List.append_assoc ..)
            exact ⟨left, dir, .link hl hs hshort he hleads, hdir⟩

/-- The same text stands in front of all that is joined to a directory. It begins with the path of the
directory. -/
theorem exists_front_join (directory : Path) :
    ∃ base : List Char, directory.chars <+: base ∧
      ∀ q : Path, q.isAbsolute = false → (directory.join q).chars = base ++ q.chars := by
  rcases Path.join_cases directory with ⟨hnil, hjoin⟩ | ⟨init, hinit, hjoin⟩ | ⟨-, hjoin⟩
  · exact ⟨[], by simp [hnil], fun q hq => by rw [hjoin q hq]; rfl⟩
  · exact ⟨init ++ ['/'], by simp [hinit], fun q hq => by rw [hjoin q hq]; simp⟩
  · exact ⟨directory.chars ++ ['/'], List.prefix_append .., fun q hq => by rw [hjoin q hq]; simp⟩

theorem speakable_join_dot (hm : Path.IsPlainName m) (h : Speakable (directory.join ⟨m⟩)) :
    Speakable (directory.join ⟨['.']⟩) := by
  obtain ⟨hnull, -, hshort⟩ := h
  have hsize : byteCount ['.'] ≤ byteCount m := by
    cases m with
    | nil => cases hm.1.1
    | cons c rest =>
        have hpos : 0 < c.utf8Size := Char.utf8Size_pos c
        change 1 ≤ c.utf8Size + _
        omega
  obtain ⟨base, -, hbase⟩ := exists_front_join directory
  rw [hbase _ hm.isAbsolute] at hnull hshort
  rw [Speakable, hbase _ (by decide)]
  refine ⟨fun hmem => ?_, by simp, ?_⟩
  · rcases List.mem_append.1 hmem with hmem | hmem
    · exact hnull (List.mem_append_left _ hmem)
    · exact absurd hmem (by decide)
  · rw [byteCount_append] at hshort ⊢
    exact Nat.le_trans (Nat.add_le_add_left hsize _) hshort

/-- **What a path to an entry goes through is a directory.** -/
theorem exists_find_of_walk (hm : Path.IsPlainName m) {place : Place}
    (h : t.walk followLast cwd (directory.join ⟨m⟩) = .ok place) :
    ∃ dir, t.find cwd (directory.join ⟨['.']⟩) = .ok (dir, .directory) := by
  obtain ⟨hspeakable, hwalk⟩ := walk_eq_ok_iff.1 h
  obtain ⟨front, hfront, hsplit⟩ := Path.exists_splitOn_join directory
  have hdot : Path.isAbsolute ⟨['.']⟩ = false := by decide
  rw [hsplit _ hm.isAbsolute, hm.splitOn, linkStart, Path.isAbsolute_join hm.isAbsolute,
    ← linkStart] at hwalk
  obtain ⟨left, dir, hleads, hdir⟩ := exists_leads_of_walkFrom hm.1 hwalk
  refine ⟨dir, find_eq_ok_iff.2 ⟨speakable_join_dot hm hspeakable, ⟨left, ?_⟩, hdir⟩⟩
  rw [hsplit _ hdot, linkStart, Path.isAbsolute_join hdot, ← linkStart]
  exact hleads.append (.idle hdir (by decide) (.here left dir))

/-! ### Directories that are there -/

/-- A walk that does not follow its last link ends somewhere too. -/
theorem Leads.exists_walkFrom {left : Nat} {x : Location} {segments : List (List Char)} {e : Entry}
    (h : t.Leads links l segments left x) (hx : t.get? x = some e) :
    ∃ y e', t.walkFrom false links l segments = .ok (.taken y e') := by
  induction h with
  | here => exact ⟨_, e, walkFrom_nil_of_some hx⟩
  | idle hl hs _ ih =>
      rw [walkFrom_of_isIdle hl hs]
      exact ih hx
  | up hl _ ih =>
      rw [walkFrom_up hl]
      exact ih hx
  | entry hl hs hshort he hlink _ ih =>
      rw [walkFrom_of_entry hl hs hshort he hlink]
      exact ih hx
  | @link _ _ l _ s rest target hl hs hshort he _ ih =>
      cases rest with
      | nil => exact ⟨_, _, walkFrom_of_last_link hl hs hshort he⟩
      | cons s' rest =>
          rw [walkFrom_of_link_succ hl hs hshort he (.inl (by simp))]
          exact ih hx

/-- A beginning of the path of a directory that spells the same steps leads there too. -/
theorem find_of_isPrefix (hdir : t.find cwd (directory.join ⟨['.']⟩) = .ok (dir, .directory))
    (hsteps : p.steps = directory.steps) (hroot : p.isAbsolute = directory.isAbsolute)
    (hstart : p.chars <+: (directory.join ⟨['.']⟩).chars) (hne : p.chars ≠ []) :
    t.find cwd p = .ok (dir, .directory) := by
  obtain ⟨⟨hnull, -, hshort⟩, -⟩ := find_eq_ok_iff.1 hdir
  obtain ⟨more, hmore⟩ := hstart
  rw [← hmore] at hnull hshort
  rw [byteCount_append] at hshort
  obtain ⟨left, hleads⟩ := leads_of_find_dot hdir hsteps
  refine find_eq_ok_iff.2 ⟨⟨fun hmem => hnull (List.mem_append_left _ hmem), hne, by omega⟩,
    ⟨left, ?_⟩, get?_of_find hdir⟩
  rw [linkStart, hroot, ← linkStart]
  exact hleads

/-- **A directory that is there is not made.** -/
theorem makeDirectories_of_find (hdir : t.find cwd (directory.join ⟨['.']⟩) = .ok (dir, .directory)) :
    t.makeDirectories cwd directory = (t, .ok ()) := by
  by_cases hne : directory.chars = []
  · rw [makeDirectories, if_pos (by simp [hne])]
  obtain ⟨base, hstart, hbase⟩ := exists_front_join directory
  have hfind : t.find cwd directory = .ok (dir, .directory) := by
    refine find_of_isPrefix hdir rfl rfl ?_ hne
    rw [hbase _ (by decide)]
    exact hstart.trans (List.prefix_append ..)
  obtain ⟨hspeakable, ⟨left, hleads⟩, hget⟩ := find_eq_ok_iff.1 hfind
  obtain ⟨y, e, hwalk⟩ := hleads.exists_walkFrom hget
  have hmake : t.makeDirectory cwd directory = .error (.os .alreadyExists) := by
    rw [makeDirectory, walk_eq_ok_iff.2 ⟨hspeakable, hwalk⟩]
    rfl
  rw [makeDirectories_of_error (by simpa using hne) hmake (by simp), isDirectory, hfind]
  rfl

/-! ### Walks to an entry -/

/-- Why a path to an entry of a directory cannot be looked up: it holds a null character, or it or the
name of the entry is too long. -/
def pathFault? (p : Path) (m : List Char) : Option IoError :=
  if p.chars.contains '\x00' then some .nullInPath
  else if pathLimit < byteCount p.chars || nameLimit < byteCount m then some (.os .nameTooLong)
  else none

theorem Beside.ne_nil (hp : Beside directory m p) (hm : Path.IsPlainName m) : p.chars ≠ [] := by
  obtain ⟨-, front, hsplit, -⟩ := hp
  intro hnil
  rw [hnil] at hsplit
  have hmem : m ∈ Text.splitOn '/' [] := hsplit ▸ List.mem_append_right _ List.mem_cons_self
  rw [Text.splitOn, List.mem_singleton] at hmem
  rw [hmem] at hm
  cases hm.1.1

theorem pathFault?_eq_none_iff (hne : p.chars ≠ []) :
    pathFault? p m = none ↔ Speakable p ∧ byteCount m ≤ nameLimit := by
  have hnull : p.chars.contains '\x00' = true ↔ '\x00' ∈ p.chars := List.contains_iff_mem
  unfold pathFault? Speakable
  by_cases hmem : '\x00' ∈ p.chars
  · simp [hmem]
  · rw [if_neg (mt hnull.1 hmem)]
    by_cases hlong : pathLimit < byteCount p.chars
    · simp [hlong, Nat.not_le.2 hlong]
    · by_cases hname : nameLimit < byteCount m
      · simp [hname, Nat.not_le.2 hname]
      · simp [hlong, hname, hmem, hne, Nat.le_of_not_lt]

section Entry

variable (hdir : t.find cwd (directory.join ⟨['.']⟩) = .ok (dir, .directory))
  (hp : Beside directory m p) (hm : Path.IsPlainName m)
include hdir hp hm

omit hm in
variable (followLast) in
/-- A walk to an entry goes on from the directory. -/
theorem walkFrom_of_beside :
    ∃ left, t.walkFrom followLast linkLimit (linkStart cwd p) (Text.splitOn '/' p.chars) =
      t.walkFrom followLast left dir [m] := by
  obtain ⟨hroot, front, hsplit, hfront⟩ := hp
  obtain ⟨left, hleads⟩ := leads_of_find_dot hdir hfront
  refine ⟨left, ?_⟩
  rw [hsplit, linkStart, hroot, ← linkStart]
  exact hleads.walkFrom_append (by simp)

theorem walk_of_fault {e : IoError} (hfault : pathFault? p m = some e) :
    t.walk followLast cwd p = .error e := by
  have hempty : p.chars.isEmpty = false := by simpa using hp.ne_nil hm
  unfold pathFault? at hfault
  unfold walk
  by_cases hnull : p.chars.contains '\x00' = true
  · rw [if_pos hnull] at hfault ⊢
    exact congrArg Except.error (Option.some.inj hfault)
  · rw [if_neg hnull] at hfault ⊢
    rw [hempty, if_neg Bool.false_ne_true]
    by_cases hlong : pathLimit < byteCount p.chars
    · rw [if_pos (by simp [hlong])] at hfault
      rw [if_pos hlong]
      exact congrArg Except.error (Option.some.inj hfault)
    · rw [if_neg hlong, ← linkStart]
      have hname : nameLimit < byteCount m := by
        by_contra hname
        rw [if_neg (by simp [hlong, hname])] at hfault
        cases hfault
      rw [if_pos (by simp [hname])] at hfault
      obtain ⟨left, hwalk⟩ := walkFrom_of_beside followLast hdir hp
      rw [hwalk, walkFrom_of_tooLong (get?_of_find hdir) hm.1 hname]
      exact congrArg Except.error (Option.some.inj hfault)

theorem pathFault?_of_walk {place : Place} (h : t.walk followLast cwd p = .ok place) :
    pathFault? p m = none := by
  refine Option.eq_none_iff_forall_ne_some.2 fun e he => ?_
  rw [walk_of_fault hdir hp hm he] at h
  cases h

variable (followLast) in
theorem walk_of_fits (hfits : pathFault? p m = none)
    (hlink : followLast = true → ∀ target, t.get? (dir ++ [m]) ≠ some (.link target)) :
    t.walk followLast cwd p = .ok (t.placeAt (dir ++ [m])) := by
  obtain ⟨hspeakable, hshort⟩ := (pathFault?_eq_none_iff (hp.ne_nil hm)).1 hfits
  obtain ⟨left, hwalk⟩ := walkFrom_of_beside followLast hdir hp
  refine walk_eq_ok_iff.2 ⟨hspeakable, hwalk.trans ?_⟩
  have hget := get?_of_find hdir
  by_cases hany : ∃ target, t.get? (dir ++ [m]) = some (.link target)
  · obtain ⟨target, he⟩ := hany
    cases followLast with
    | true => exact absurd he (hlink rfl target)
    | false => rw [walkFrom_of_last_link hget hm.1 hshort he, placeAt, he]
  · exact walkFrom_last hget hm.1 hshort (any_isLink_eq_false (not_exists.1 hany))

/-! ### File operations -/

omit hdir in
theorem named_of_beside : (directoryPart p).2 = true := by
  obtain ⟨-, front, hsplit, -⟩ := hp
  obtain ⟨⟨hidle, hup⟩, -⟩ := hm
  obtain ⟨hne, hdot⟩ : m ≠ [] ∧ m ≠ ['.'] := by
    constructor <;> rintro rfl <;> cases hidle
  have hkept : ((front ++ [m]).reverse.dropWhile List.isEmpty).reverse = front ++ [m] := by
    rw [List.reverse_append, List.reverse_singleton, List.singleton_append,
      List.dropWhile_cons_of_neg (by simpa using hne)]
    simp
  unfold directoryPart
  dsimp only
  rw [hsplit, hkept, List.getLast?_concat]
  simp [hdot, hup]

theorem create_of_fault {e : IoError} (hfault : pathFault? p m = some e) (content : Bytes) :
    t.create cwd p content = .error e := by
  unfold create writable
  rw [walk_of_fault hdir hp hm hfault]
  simp [named_of_beside hp hm, bind, Except.bind]

/-- A file that is there gets a new content. -/
theorem create_of_some (hfits : pathFault? p m = none)
    (he : t.get? (dir ++ [m]) = some (.file before runnable)) (content : Bytes) :
    t.create cwd p content = .ok (t.put (dir ++ [m]) (.file content runnable)) := by
  obtain ⟨hspeakable, hshort⟩ := (pathFault?_eq_none_iff (hp.ne_nil hm)).1 hfits
  exact create_of_find (named_of_beside hp hm) (find_of_beside hdir hp hm hspeakable hshort he rfl) _

/-- A file that is not there is created. -/
theorem create_of_none (hfits : pathFault? p m = none) (hnone : t.get? (dir ++ [m]) = none)
    (content : Bytes) :
    t.create cwd p content = .ok (t.put (dir ++ [m]) (.file content false)) := by
  have hwalk : t.walk true cwd p = .ok (.free (dir ++ [m])) := by
    rw [walk_of_fits _ hdir hp hm hfits (by simp [hnone]), placeAt, hnone]
  obtain ⟨hspeakable, hshort⟩ := (pathFault?_eq_none_iff (hp.ne_nil hm)).1 hfits
  have hplace : dir ++ [m] ≠ [] := by simp
  -- the path leads to the file once it is there
  have hfound : (t.put (dir ++ [m]) (.file [] false)).find cwd p =
      .ok (dir ++ [m], .file [] false) := by
    refine find_of_beside (find_of_sameWays (sameWays_put hplace (by simp [hnone]) (by simp [hnone])
      [] false) hdir) hp hm hspeakable hshort ?_ rfl
    rw [get?_put hplace, if_pos rfl]
  unfold create writable
  rw [hwalk]
  simp [named_of_beside hp hm, bind, Except.bind, pure, Except.pure, isFile_of_find hfound]

theorem remove_of_fault {e : IoError} (hfault : pathFault? p m = some e) : t.remove cwd p = t := by
  rw [remove, walk_of_fault hdir hp hm hfault]

/-- A file is taken away. -/
theorem remove_of_some (hfits : pathFault? p m = none)
    (he : t.get? (dir ++ [m]) = some (.file before runnable)) :
    t.remove cwd p = t.erase (dir ++ [m]) := by
  rw [remove, walk_of_fits _ hdir hp hm hfits (by simp), placeAt, he]

variable (hq : Beside directory n q) (hn : Path.IsPlainName n)
include hq hn

omit hdir hp hm in
/-- A path that spells an entry does not end in a dot, in two dots or in a slash. -/
theorem getLast?_of_beside :
    (Text.splitOn '/' q.chars).getLast? = some n ∧ n ≠ ['.'] ∧ n ≠ ['.', '.'] ∧ n ≠ [] := by
  obtain ⟨-, front, hsplit, -⟩ := hq
  obtain ⟨⟨hidle, hup⟩, -⟩ := hn
  refine ⟨by rw [hsplit, List.getLast?_concat], ?_, hup, ?_⟩ <;> rintro rfl <;> cases hidle

/-- A file takes the place of what is no directory. -/
theorem rename_of_some (hfits : pathFault? p m = none) (hfits' : pathFault? q n = none)
    (he : t.get? (dir ++ [m]) = some (.file before runnable))
    (hover : t.get? (dir ++ [n]) ≠ some .directory) (hne : m ≠ n) :
    t.rename cwd p q =
      .ok ((t.erase (dir ++ [m])).put (dir ++ [n]) (.file before runnable)) := by
  have hsource : t.walk false cwd p = .ok (.taken (dir ++ [m]) (.file before runnable)) := by
    rw [walk_of_fits _ hdir hp hm hfits (by simp), placeAt, he]
  have htarget := walk_of_fits false hdir hq hn hfits' (by simp)
  obtain ⟨hlast, hdot, hup, hempty⟩ := getLast?_of_beside hq hn
  have hdiff : dir ++ [m] ≠ dir ++ [n] := by simpa using hne
  unfold rename
  rw [hsource, htarget, placeAt]
  cases hn' : t.get? (dir ++ [n]) with
  | none => simp [hlast, hdot, hup, hempty, bind, Except.bind, pure, Except.pure]
  | some e =>
      cases e with
      | directory => exact absurd hn' hover
      | file | link => simp [hlast, hdot, hup, hempty, hdiff, bind, Except.bind, pure, Except.pure]

theorem rename_of_fault {e : IoError} (hfits : pathFault? p m = none)
    (hfault : pathFault? q n = some e)
    (he : t.get? (dir ++ [m]) = some (.file before runnable)) : t.rename cwd p q = .error e := by
  have hsource : t.walk false cwd p = .ok (.taken (dir ++ [m]) (.file before runnable)) := by
    rw [walk_of_fits _ hdir hp hm hfits (by simp), placeAt, he]
  obtain ⟨hlast, hdot, hup, hempty⟩ := getLast?_of_beside hq hn
  unfold rename
  rw [hsource, walk_of_fault hdir hq hn hfault]
  simp [hlast, hdot, hup, hempty, bind, Except.bind]

end Entry

/-- **A new entry that is taken away again leaves nothing behind.** -/
theorem erase_put (hne : l ≠ []) (hnone : t.get? l = none) (e : Entry) : (t.put l e).erase l = t := by
  have hkey : l ∉ t.entries.keys := by
    intro hmem
    rw [get?_of_ne_nil hne] at hnone
    have hsome := (OrderedMap.contains_iff t.entries l).2 hmem
    rw [OrderedMap.contains, hnone] at hsome
    cases hsome
  have hentries : ((t.put l e).erase l).entries.entries = t.entries.entries := by
    rw [erase, put]
    dsimp only
    rw [OrderedMap.entries_insert_of_not_mem hkey, List.filter_append,
      List.filter_cons_of_neg (by simp), List.filter_nil, List.append_nil, List.filter_eq_self]
    intro e he
    have hmem : e.1 ∈ t.entries.keys := List.mem_map_of_mem he
    simpa using fun heq : e.1 = l => hkey (heq ▸ hmem)
  refine congrArg FileTree.mk (OrderedMap.ext_get? (congrArg (List.map Prod.fst) hentries) fun k => ?_)
  unfold OrderedMap.get?
  exact congrArg _ hentries

end FileTree

/-! ### Writes into a directory -/

open FileTree

variable {h : Host} {staging : Path} {dir : Location} {n : List Char} {content : Bytes}

/-- The path of the temporary file for an entry of a directory. -/
def temporaryBeside (staging : Path) (n : List Char) (process write : Nat) : Path :=
  ((staging.join ⟨n⟩).parent?.getD ⟨['.']⟩).join ⟨temporaryName n process write⟩

/-- Why a file cannot be written into a directory: the path of the temporary file or that of the file
itself cannot be looked up. -/
def writeFault? (staging : Path) (n : List Char) (process write : Nat) : Option IoError :=
  (pathFault? (temporaryBeside staging n process write) (temporaryName n process write)).or
    (pathFault? (staging.join ⟨n⟩) n)

theorem temporaryPath_join (staging : Path) (hn : Path.IsPlainName n) (process write : Nat) :
    temporaryPath (staging.join ⟨n⟩) process write = .ok (temporaryBeside staging n process write) := by
  rw [temporaryPath, Path.fileName?_join hn]
  rfl

theorem beside_temporaryBeside (staging : Path) (hn : Path.IsPlainName n) (process write : Nat) :
    Beside staging (temporaryName n process write) (temporaryBeside staging n process write) := by
  obtain ⟨parent, -, hsteps, hroot, heq⟩ :=
    exists_parent_of_temporaryPath hn (temporaryPath_join staging hn process write)
  rw [heq]
  exact beside_join hsteps hroot (isPlainName_temporaryName hn process write)

/-- The parent of an entry is a beginning of the path that leads to the directory. -/
theorem parent_join_isPrefix (hn : Path.IsPlainName n) {parent : Path}
    (hparent : (staging.join ⟨n⟩).parent? = some parent) :
    parent.chars <+: (staging.join ⟨['.']⟩).chars := by
  obtain ⟨base, -, hbase⟩ := exists_front_join staging
  have hname : (staging.join ⟨n⟩).fileName? = some n := Path.fileName?_join hn
  obtain ⟨parent', hparent', hsteps, -⟩ := Path.exists_parent hname
  obtain rfl := Option.some.inj (hparent.symm.trans hparent')
  rw [Path.steps_join hn.isAbsolute, hn.steps, List.dropLast_concat] at hsteps
  have hfront := Path.parent?_isPrefix hparent
  rw [hbase _ hn.isAbsolute] at hfront
  rw [hbase _ (by decide)]
  obtain ⟨back, hback⟩ := hfront
  rcases List.append_eq_append_iff.1 hback with ⟨more, rfl, -⟩ | ⟨more, hmore, rfl⟩
  · rw [List.append_assoc]
    exact List.prefix_append _ _
  · -- what the parent has of the name counts for nothing
    have hslash : '/' ∉ more := fun hmem => hn.2 (List.mem_append_left _ hmem)
    have hrelative : Path.isAbsolute ⟨more⟩ = false := by
      cases more with
      | nil => rfl
      | cons c rest =>
          have hc : c ≠ '/' := fun hc => hslash (hc ▸ List.mem_cons_self)
          simpa [Path.isAbsolute] using hc
    have hparentEq : parent = staging.join ⟨more⟩ :=
      congrArg Path.mk (hmore.trans (hbase _ hrelative).symm)
    rw [hparentEq, Path.steps_join hrelative] at hsteps
    have hnil : Path.steps ⟨more⟩ = [] := by simpa using hsteps
    rw [Path.steps, Text.splitOn_eq_singleton hslash] at hnil
    rw [hmore, List.prefix_append_right_inj]
    have hidle : ¬ more = [] → more = ['.'] := by simpa [Path.isIdle] using hnil
    by_cases hempty : more = []
    · rw [hempty]
      exact List.nil_prefix
    · obtain rfl := hidle hempty
      exact List.prefix_rfl

/-- The directory of an entry need not be made. -/
theorem ensureParent_join {t : FileTree} {cwd : Location} (faults : WriteFaults)
    (hdir : t.find cwd (staging.join ⟨['.']⟩) = .ok (dir, .directory)) (hn : Path.IsPlainName n) :
    ensureParent faults t cwd (staging.join ⟨n⟩) = (t, .ok ()) := by
  obtain ⟨parent, hparent, hsteps, hroot, -⟩ :=
    exists_parent_of_temporaryPath hn (temporaryPath_join staging hn 0 0)
  unfold ensureParent
  rw [hparent]
  dsimp only
  by_cases hne : parent.chars = []
  · rw [if_pos (by simp [hne])]
  · have hfind := find_of_isPrefix hdir hsteps hroot (parent_join_isPrefix hn hparent) hne
    rw [if_pos (by simp [exists?, hfind, Except.isOk, Except.toBool])]

/-- The temporary file is written. -/
theorem writeTemporary_of_fits {t : FileTree} {cwd : Location} {temporary : Path} {tmp : List Char}
    (hdir : t.find cwd (staging.join ⟨['.']⟩) = .ok (dir, .directory))
    (hp : Beside staging tmp temporary) (htmp : Path.IsPlainName tmp)
    (hfits : pathFault? temporary tmp = none) (hfree : t.get? (dir ++ [tmp]) = none) :
    writeTemporary (fun _ => none) t cwd temporary content =
      (t.put (dir ++ [tmp]) (.file content false), .ok ()) := by
  have hplace : dir ++ [tmp] ≠ [] := by simp
  have hcreated : (t.put (dir ++ [tmp]) (.file [] false)).find cwd (staging.join ⟨['.']⟩) =
      .ok (dir, .directory) :=
    find_of_sameWays (sameWays_put hplace (by simp [hfree]) (by simp [hfree]) [] false) hdir
  have hfile : (t.put (dir ++ [tmp]) (.file [] false)).get? (dir ++ [tmp]) =
      some (.file [] false) := by rw [get?_put hplace, if_pos rfl]
  simp only [writeTemporary, WriteFaults.guard]
  rw [create_of_none hdir hp htmp hfits hfree]
  dsimp only
  rw [create_of_some hcreated hp htmp hfits hfile, put_put]

section Write

variable (hdir : h.files.find h.directory (staging.join ⟨['.']⟩) = .ok (dir, .directory))
  (hn : Path.IsPlainName n)
  (hfree : h.files.get? (dir ++ [temporaryName n h.processId h.writes]) = none)
include hdir hn hfree

omit hn in
variable (content) in
/-- The temporary file that was written is there, and its directory still is where it was. -/
theorem find_of_temporary :
    (h.files.put (dir ++ [temporaryName n h.processId h.writes]) (.file content false)).find
        h.directory (staging.join ⟨['.']⟩) = .ok (dir, .directory) ∧
      (h.files.put (dir ++ [temporaryName n h.processId h.writes]) (.file content false)).get?
        (dir ++ [temporaryName n h.processId h.writes]) = some (.file content false) := by
  have hplace : dir ++ [temporaryName n h.processId h.writes] ≠ [] := by simp
  refine ⟨find_of_sameWays (sameWays_put hplace (by simp [hfree]) (by simp [hfree]) content false)
    hdir, ?_⟩
  rw [get?_put hplace, if_pos rfl]

/-- **What writing into a directory comes to if it cannot be done**: nothing but an error. -/
theorem writeAtomically_of_fault {e : IoError}
    (hfault : writeFault? staging n h.processId h.writes = some e) :
    writeAtomically h (staging.join ⟨n⟩) content =
      (.error e, { h with writes := h.writes + 1 }) := by
  have hbeside := beside_temporaryBeside staging hn h.processId h.writes
  have htmp := isPlainName_temporaryName hn h.processId h.writes
  have hplace : dir ++ [temporaryName n h.processId h.writes] ≠ [] := by simp
  unfold writeAtomically writeAtomicallyWith
  rw [ensureParent_join _ hdir hn, temporaryPath_join staging hn]
  simp only [WriteFaults.guard]
  unfold writeFault? at hfault
  cases hpath : pathFault? (temporaryBeside staging n h.processId h.writes)
      (temporaryName n h.processId h.writes) with
  | some e' =>
      rw [hpath] at hfault
      obtain rfl : e' = e := Option.some.inj hfault
      simp only [writeTemporary, WriteFaults.guard]
      rw [create_of_fault hdir hbeside htmp hpath]
      dsimp only [Except.bind]
      rw [remove_of_fault hdir hbeside htmp hpath]
  | none =>
      -- the temporary file is taken away again
      rw [hpath, Option.none_or] at hfault
      obtain ⟨hdir', hfile⟩ := find_of_temporary content hdir hfree
      rw [writeTemporary_of_fits hdir hbeside htmp hpath hfree]
      dsimp only [Except.bind]
      rw [rename_of_fault hdir' hbeside htmp (beside_join rfl rfl hn) hn hpath hfault hfile]
      dsimp only
      rw [remove_of_some hdir' hbeside htmp hpath hfile, erase_put hplace hfree]

/-- **What writing into a directory comes to**: the file stands under its name. -/
theorem writeAtomically_of_fits (hfits : writeFault? staging n h.processId h.writes = none)
    (hover : h.files.get? (dir ++ [n]) ≠ some .directory) :
    writeAtomically h (staging.join ⟨n⟩) content =
      (.ok (), { h with
        files := h.files.put (dir ++ [n]) (.file content false)
        writes := h.writes + 1 }) := by
  have hbeside := beside_temporaryBeside staging hn h.processId h.writes
  have htmp := isPlainName_temporaryName hn h.processId h.writes
  have hplace : dir ++ [temporaryName n h.processId h.writes] ≠ [] := by simp
  have hne := Ne.symm (ne_temporaryName n h.processId h.writes)
  obtain ⟨hpath, htarget⟩ := Option.or_eq_none_iff.1 hfits
  obtain ⟨hdir', hfile⟩ := find_of_temporary content hdir hfree
  have hover' : (h.files.put (dir ++ [temporaryName n h.processId h.writes])
      (.file content false)).get? (dir ++ [n]) ≠ some .directory := by
    rw [get?_put hplace, if_neg (by simpa using Ne.symm hne)]
    exact hover
  unfold writeAtomically writeAtomicallyWith
  rw [ensureParent_join _ hdir hn, temporaryPath_join staging hn]
  simp only [WriteFaults.guard]
  rw [writeTemporary_of_fits hdir hbeside htmp hpath hfree]
  dsimp only [Except.bind]
  rw [rename_of_some hdir' hbeside htmp (beside_join rfl rfl hn) hn hpath htarget hfile hover' hne,
    erase_put hplace hfree]

end Write

end StandardsGate
