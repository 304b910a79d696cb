import StandardsGate.Proofs.Host.Replacing

/-!
Temporary files.

A file that is written in one piece goes to a temporary file beside its target first. The name of
that file is made of the name of the target, the process and a count of its writes. All of them can
be read off the name, so no two writes share a temporary file, and it is never the target itself.

Main results:

* `temporaryName_inj` — **no two writes have temporary files of one name**;
* `isPlainName_temporaryName` — the name of a temporary file means what it says;
* `FileTree.get?_of_writeAtomically` — **what a write into a directory does to a tree**;
* `writeAtomically_of_lost` — **nothing is written into a directory that its path no longer leads
  to**.
-/

namespace StandardsGate

open FileTree

/-! ### Names of temporary files -/

theorem toList_toString_injective : Function.Injective fun k : Nat => (toString k).toList := by
  intro j k h
  have hdigits : Nat.toDigits 10 j = Nat.toDigits 10 k := by simpa using h
  rw [← Nat.ofDigitChars_ten_toDigits (n := j), hdigits, Nat.ofDigitChars_ten_toDigits]

theorem dot_not_mem_toString (k : Nat) : '.' ∉ (toString k).toList := by
  intro hk
  have hdigits : '.' ∈ Nat.toDigits 10 k := by simpa using hk
  cases Nat.isDigit_of_mem_toDigits (by decide) (by decide) hdigits

/-- The last dot of a text can stand in one place only. -/
theorem eq_of_append_dot {a a' b b' : List Char} (hb : '.' ∉ b) (hb' : '.' ∉ b')
    (h : a ++ '.' :: b = a' ++ '.' :: b') : a = a' ∧ b = b' := by
  rcases List.append_eq_append_iff.1 h with ⟨c, rfl, hc⟩ | ⟨c, rfl, hc⟩
  · cases c with
    | nil => simpa using hc
    | cons x c =>
        obtain ⟨-, rfl⟩ := List.cons.inj hc
        exact absurd (by simp) hb
  · cases c with
    | nil => simpa using hc.symm
    | cons x c =>
        obtain ⟨-, rfl⟩ := List.cons.inj hc
        exact absurd (by simp) hb'

/-- **No two writes have temporary files of one name**, whatever their targets are called. -/
theorem temporaryName_inj {n n' : List Char} {process process' write write' : Nat} :
    temporaryName n process write = temporaryName n' process' write' ↔
      n = n' ∧ process = process' ∧ write = write' := by
  refine ⟨fun h => ?_, fun ⟨hn, hprocess, hwrite⟩ => by rw [hn, hprocess, hwrite]⟩
  obtain ⟨h, hwrite⟩ := eq_of_append_dot (dot_not_mem_toString _) (dot_not_mem_toString _)
    (List.append_cancel_right h)
  obtain ⟨hn, hprocess⟩ := eq_of_append_dot (dot_not_mem_toString _) (dot_not_mem_toString _) h
  exact ⟨(List.cons.inj hn).2, toList_toString_injective hprocess, toList_toString_injective hwrite⟩

theorem isPlainName_temporaryName {n : List Char} (hn : Path.IsPlainName n) (process write : Nat) :
    Path.IsPlainName (temporaryName n process write) := by
  have hslash : ∀ k : Nat, '/' ∉ Nat.toDigits 10 k := by
    intro k hk
    have hdigit : '/'.isDigit = true := Nat.isDigit_of_mem_toDigits (by decide) (by decide) hk
    cases hdigit
  obtain ⟨⟨hidle, -⟩, hplain⟩ := hn
  cases n with
  | nil => cases hidle
  | cons c n =>
      refine ⟨⟨?_, ?_⟩, ?_⟩
      · simp [temporaryName, Path.isIdle]
      · intro h
        have hlength := congrArg List.length h
        simp [temporaryName] at hlength
      · rw [temporaryName]
        simp only [List.mem_append, List.mem_cons, not_or, List.cons_append] at hplain ⊢
        simp [hplain, hslash]

theorem ne_temporaryName (n : List Char) (process write : Nat) :
    n ≠ temporaryName n process write := by
  intro hn
  have hlength := congrArg List.length hn
  simp only [temporaryName, List.length_append, List.length_cons] at hlength
  omega

/-! ### Writes into a directory -/

variable {h h' : Host} {content : Bytes} {staging : Path} {dir : Location} {n : List Char}

theorem FileTree.byteCount_le_append (cs more : List Char) :
    byteCount cs ≤ byteCount (cs ++ more) := by
  induction cs with
  | nil => exact Nat.zero_le _
  | cons c cs ih => exact Nat.add_le_add_left ih _

/-- The directory of a path that can be looked up need not be made, however it is spelled. -/
theorem FileTree.isEmpty_or_exists_of_join {t : FileTree} {cwd : Location} {parent q : Path}
    (hdir : t.find cwd (staging.join ⟨['.']⟩) = .ok (dir, .directory))
    (hsteps : parent.steps = staging.steps) (hroot : parent.isAbsolute = staging.isAbsolute)
    (hq : q.isAbsolute = false) (hspeakable : Speakable (parent.join q)) :
    (parent.chars.isEmpty || t.exists? cwd parent) = true := by
  obtain ⟨hnull, -, hshort⟩ := hspeakable
  -- the path of the directory is the beginning of the longer path
  obtain ⟨more, hchars⟩ : ∃ more, (parent.join q).chars = parent.chars ++ more := by
    rcases Path.join_cases parent with ⟨hnil, hjoin⟩ | ⟨init, hinit, hjoin⟩ | ⟨-, hjoin⟩
    · exact ⟨_, by rw [hnil]; rfl⟩
    · exact ⟨q.chars, by rw [hjoin _ hq, hinit]; simp⟩
    · exact ⟨'/' :: q.chars, by rw [hjoin _ hq]⟩
  rw [hchars] at hnull hshort
  by_cases hne : parent.chars = []
  · simp [hne]
  · obtain ⟨left, hleads⟩ := leads_of_find_dot hdir hsteps
    have hstart : linkStart cwd parent = linkStart cwd staging := by rw [linkStart, linkStart, hroot]
    have hfind : t.find cwd parent = .ok (dir, .directory) := by
      refine find_eq_ok_iff.2 ⟨⟨fun hmem => hnull (List.mem_append_left _ hmem), hne,
        Nat.le_trans (byteCount_le_append _ _) hshort⟩, ⟨left, ?_⟩, get?_of_find hdir⟩
      rw [hstart]
      exact hleads
    rw [exists?, hfind]
    simp [Except.isOk, Except.toBool]

/-- The path of a temporary file: it stands beside its target, in a directory that has the steps of the
one to write into. -/
theorem exists_parent_of_temporaryPath {temporary : Path} {process write : Nat}
    (hn : Path.IsPlainName n)
    (htemporary : temporaryPath (staging.join ⟨n⟩) process write = .ok temporary) :
    ∃ parent, (staging.join ⟨n⟩).parent? = some parent ∧ parent.steps = staging.steps ∧
      parent.isAbsolute = staging.isAbsolute ∧
      temporary = parent.join ⟨temporaryName n process write⟩ := by
  have hname : (staging.join ⟨n⟩).fileName? = some n := Path.fileName?_join hn
  obtain ⟨parent, hsome, hsteps, hroot⟩ := Path.exists_parent hname
  rw [Path.steps_join hn.isAbsolute, hn.steps, List.dropLast_concat] at hsteps
  rw [Path.isAbsolute_join hn.isAbsolute] at hroot
  unfold temporaryPath at htemporary
  rw [hname, hsome] at htemporary
  exact ⟨parent, hsome, hsteps, hroot, (Except.ok.inj htemporary).symm⟩

/-- What the path of a temporary file looks like, and that the directory need not be made. -/
theorem temporary_of_writeAtomically {t created : FileTree} {temporary : Path}
    (hdir : h.files.find h.directory (staging.join ⟨['.']⟩) = .ok (dir, .directory))
    (hn : Path.IsPlainName n)
    (hparent : ensureParent (fun _ => none) h.files h.directory (staging.join ⟨n⟩) = (t, .ok ()))
    (htemporary : temporaryPath (staging.join ⟨n⟩) h.processId h.writes = .ok temporary)
    (hcreate : t.create h.directory temporary [] = .ok created) :
    Beside staging (temporaryName n h.processId h.writes) temporary ∧ t = h.files := by
  obtain ⟨parent, hsome, hsteps, hroot, rfl⟩ := exists_parent_of_temporaryPath hn htemporary
  have htmp := isPlainName_temporaryName hn h.processId h.writes
  refine ⟨beside_join hsteps hroot htmp, ?_⟩
  obtain ⟨place, -, hwalk, -⟩ := create_eq_ok hcreate
  have hfound := isEmpty_or_exists_of_join hdir hsteps hroot htmp.isAbsolute
    (walk_eq_ok_iff.1 hwalk).1
  unfold ensureParent at hparent
  rw [hsome] at hparent
  dsimp only at hparent
  rw [if_pos hfound] at hparent
  exact (congrArg Prod.fst hparent).symm

/-- **What a write into a directory does to a tree**: the file stands under its name, nothing under
the name of the temporary file, and all else is as it was. -/
theorem FileTree.get?_of_writeAtomically
    (hdir : h.files.find h.directory (staging.join ⟨['.']⟩) = .ok (dir, .directory))
    (hlink : ∀ target,
      h.files.get? (dir ++ [temporaryName n h.processId h.writes]) ≠ some (.link target))
    (hn : Path.IsPlainName n)
    (hwrite : writeAtomically h (staging.join ⟨n⟩) content = (.ok (), h')) :
    h.files.get? (dir ++ [n]) ≠ some .directory ∧
      h.files.get? (dir ++ [temporaryName n h.processId h.writes]) ≠ some .directory ∧
      ∃ runnable, ∀ l, h'.files.get? l =
        if l = dir ++ [n] then some (.file content runnable)
        else if l = dir ++ [temporaryName n h.processId h.writes] then none
        else h.files.get? l := by
  obtain ⟨t, temporary, created, written, renamed, hparent, htemporary, hcreate, hfill, hrename,
    rfl⟩ := exists_of_writeAtomically hwrite
  obtain ⟨hbeside, rfl⟩ := temporary_of_writeAtomically hdir hn hparent htemporary hcreate
  have htmp := isPlainName_temporaryName hn h.processId h.writes
  have hne := ne_temporaryName n h.processId h.writes
  generalize temporaryName n h.processId h.writes = tmp at hbeside htmp hne hlink ⊢
  have hplace : dir ++ [tmp] ≠ [] := by simp
  have hdiff : dir ++ [tmp] ≠ dir ++ [n] := by simpa using Ne.symm hne
  -- only the target may change the ways of the tree, so all paths lead where they led
  have hways : SameWaysBut (dir ++ [n]) h.files h.files := .refl _ _
  obtain ⟨hfree, runnable, rfl⟩ := create_of_sameWaysBut hdir hways hbeside htmp hlink hcreate
  have hways' := hways.put hfree (.inr ⟨hfree, hlink⟩) [] runnable
  have hfile : (h.files.put (dir ++ [tmp]) (.file [] runnable)).get? (dir ++ [tmp]) =
      some (.file [] runnable) := by rw [get?_put hplace, if_pos rfl]
  obtain ⟨-, runnable', rfl⟩ :=
    create_of_sameWaysBut hdir hways' hbeside htmp (by simp [hfile]) hfill
  rw [put_put] at hrename
  have hways'' := hways.put hfree (.inr ⟨hfree, hlink⟩) content runnable'
  have hwritten : (h.files.put (dir ++ [tmp]) (.file content runnable')).get? (dir ++ [tmp]) =
      some (.file content runnable') := by rw [get?_put hplace, if_pos rfl]
  obtain ⟨hover, rfl⟩ := rename_of_sameWaysBut hdir hways'' hbeside htmp (beside_join rfl rfl hn) hn
    (Ne.symm hne) hwritten hrename
  rw [get?_put hplace, if_neg (Ne.symm hdiff)] at hover
  refine ⟨hover, hfree, runnable', fun l => ?_⟩
  dsimp only
  rw [get?_put (by simp), get?_erase hplace, get?_put hplace]
  split
  · rfl
  · split <;> rfl

/-- A write into a directory changes the ways of the tree where the file comes to stand, at most. -/
theorem FileTree.sameWaysBut_of_writeAtomically
    (hdir : h.files.find h.directory (staging.join ⟨['.']⟩) = .ok (dir, .directory))
    (hlink : ∀ target,
      h.files.get? (dir ++ [temporaryName n h.processId h.writes]) ≠ some (.link target))
    (hn : Path.IsPlainName n)
    (hwrite : writeAtomically h (staging.join ⟨n⟩) content = (.ok (), h')) :
    SameWaysBut (dir ++ [n]) h.files h'.files := by
  obtain ⟨hover, hfree, runnable, hget⟩ := get?_of_writeAtomically hdir hlink hn hwrite
  refine ⟨fun l hl e he => ?_, .inr ⟨hover, content, runnable, by rw [hget, if_pos rfl]⟩⟩
  rw [hget, if_neg hl]
  split
  · rename_i htmp
    subst htmp
    refine iff_of_false ?_ nofun
    cases e with
    | file => rcases he with he | he <;> cases he
    | directory => exact hfree
    | link target => exact hlink target
  · exact Iff.rfl

/-- The path that has been written to is short enough to be looked up, as is its name. -/
theorem FileTree.speakable_of_writeAtomically
    (hdir : h.files.find h.directory (staging.join ⟨['.']⟩) = .ok (dir, .directory))
    (hn : Path.IsPlainName n)
    (hwrite : writeAtomically h (staging.join ⟨n⟩) content = (.ok (), h')) :
    Speakable (staging.join ⟨n⟩) ∧ byteCount n ≤ nameLimit := by
  obtain ⟨t, temporary, created, written, renamed, hparent, htemporary, hcreate, -, hrename, -⟩ :=
    exists_of_writeAtomically hwrite
  obtain ⟨hbeside, rfl⟩ := temporary_of_writeAtomically hdir hn hparent htemporary hcreate
  obtain ⟨_, _, place, -, htarget, -⟩ := rename_eq_ok hrename
  obtain ⟨_, -, hwalk, -⟩ := create_eq_ok hcreate
  refine ⟨(walk_eq_ok_iff.1 htarget).1, ?_⟩
  -- the name of the temporary file is longer
  have htmp := byteCount_le_of_walk hdir hbeside (isPlainName_temporaryName hn _ _) hwalk
  rw [temporaryName] at htmp
  simp only [List.append_assoc, List.cons_append] at htmp
  have hlonger : ∀ more, byteCount n ≤ byteCount ('.' :: (n ++ more)) :=
    fun more => Nat.le_trans (byteCount_le_append n more) (Nat.le_add_left _ _)
  exact Nat.le_trans (hlonger _) htmp

/-! ### Directories that cannot be reached any more -/

section Lost

variable {t t' : FileTree} {x cwd : Location} {p : Path}

/-- If a path no longer leads to its directory, something stands in the way. -/
theorem FileTree.isBarred_of_lost (hdir : t.find cwd (staging.join ⟨['.']⟩) = .ok (dir, .directory))
    (hways : SameWaysBut x t t')
    (hlost : t'.find cwd (staging.join ⟨['.']⟩) ≠ .ok (dir, .directory))
    {front : List (List Char)}
    (hfront : front.filter (fun s => !Path.isIdle s) = staging.steps) :
    t'.IsBarred linkLimit (linkStart cwd staging) front := by
  obtain ⟨left, hleads⟩ := leads_of_find_dot hdir hfront
  refine (hleads.of_sameWaysBut hways (get?_of_find hdir)).resolve_left fun hleads' => hlost ?_
  have hget := (hways.directory_iff dir).1 (get?_of_find hdir)
  have hstart : linkStart cwd (staging.join ⟨['.']⟩) = linkStart cwd staging := by
    rw [linkStart, linkStart, Path.isAbsolute_join (by decide)]
  have hsteps : (staging.join ⟨['.']⟩).steps = staging.steps := by
    rw [Path.steps_join (by decide)]
    exact List.append_nil _
  refine find_eq_ok_iff.2 ⟨(find_eq_ok_iff.1 hdir).1, ⟨left, ?_⟩, hget⟩
  rw [hstart]
  exact hleads'.of_filter_eq hget (hfront.trans hsteps.symm)

/-- If a path no longer leads to its directory, no path to an entry of it leads anywhere. -/
theorem FileTree.walk_ne_ok_of_lost (hdir : t.find cwd (staging.join ⟨['.']⟩) = .ok (dir, .directory))
    (hways : SameWaysBut x t t')
    (hlost : t'.find cwd (staging.join ⟨['.']⟩) ≠ .ok (dir, .directory)) (hp : Beside staging n p)
    (followLast : Bool) (place : Place) : t'.walk followLast cwd p ≠ .ok place := by
  intro hwalk
  obtain ⟨hroot, front, hsplit, hfront⟩ := hp
  obtain ⟨-, hwalk⟩ := walk_eq_ok_iff.1 hwalk
  rw [hsplit, linkStart, hroot, ← linkStart] at hwalk
  exact (isBarred_of_lost hdir hways hlost hfront).walkFrom_ne_ok (by simp) _ _ hwalk

/-- Where something stands in the way, a directory is not made, and not because one on the way to
it is missing. -/
theorem FileTree.makeDirectory_of_isBarred
    (hbarred : t.IsBarred linkLimit (linkStart cwd p) (Text.splitOn '/' p.chars))
    (hempty : p.chars.isEmpty = false) :
    ∃ e, t.makeDirectory cwd p = .error e ∧ e ≠ .os .notFound := by
  by_cases hnull : p.chars.contains '\x00' = true
  · exact ⟨.nullInPath, by rw [makeDirectory, walk, if_pos hnull]; rfl, by simp⟩
  by_cases hlong : pathLimit < byteCount p.chars
  · refine ⟨.os .nameTooLong, ?_, by simp⟩
    rw [makeDirectory, walk, if_neg hnull, hempty, if_neg Bool.false_ne_true, if_pos hlong]
    rfl
  have hfrom : t.walk false cwd p = (t.walkFrom false linkLimit (linkStart cwd p)
      (Text.splitOn '/' p.chars)).mapError .os := by
    rw [walk, if_neg hnull, hempty, if_neg Bool.false_ne_true, if_neg hlong]
    rfl
  have hwalk := hbarred false []
  rw [List.append_nil] at hwalk
  rcases hwalk with hwalk | ⟨-, x, e, hwalk⟩
  · exact ⟨.os .notDirectory, by rw [makeDirectory, hfrom, hwalk]; rfl, by simp⟩
  · exact ⟨.os .alreadyExists, by rw [makeDirectory, hfrom, hwalk]; rfl, by simp⟩

/-- If a directory is not made, and not because one on the way to it is missing, then none is. -/
theorem FileTree.makeDirectories_of_error {e : IoError} (hempty : p.chars.isEmpty = false)
    (hmake : t.makeDirectory cwd p = .error e) (he : e ≠ .os .notFound) :
    t.makeDirectories cwd p = (t, if t.isDirectory cwd p then .ok () else .error e) := by
  rw [makeDirectories, hempty, if_neg Bool.false_ne_true, hmake]
  cases e with
  | os f => cases f with
    | notFound => exact absurd rfl he
    | _ => rfl
  | _ => rfl

/-- What no path leads to is no directory. -/
theorem FileTree.isDirectory_of_not_exists (h : t.exists? cwd p = false) :
    t.isDirectory cwd p = false := by
  rw [exists?] at h
  rw [isDirectory]
  cases hfind : t.find cwd p with
  | error e => rfl
  | ok found => rw [hfind] at h; cases h

/-- Where something stands in the way, no directories are made. -/
theorem FileTree.makeDirectories_of_isBarred
    (hbarred : t.IsBarred linkLimit (linkStart cwd p) (Text.splitOn '/' p.chars))
    (hempty : p.chars.isEmpty = false) (hfree : t.exists? cwd p = false) :
    ∃ e, t.makeDirectories cwd p = (t, .error e) := by
  obtain ⟨e, hmake, he⟩ := makeDirectory_of_isBarred hbarred hempty
  refine ⟨e, ?_⟩
  rw [makeDirectories_of_error hempty hmake he, isDirectory_of_not_exists hfree,
    if_neg Bool.false_ne_true]

/-- **Nothing is written into a directory that its path no longer leads to.** -/
theorem writeAtomically_of_lost
    (hdir : t.find h.directory (staging.join ⟨['.']⟩) = .ok (dir, .directory))
    (hways : SameWaysBut x t h.files)
    (hlost : h.files.find h.directory (staging.join ⟨['.']⟩) ≠ .ok (dir, .directory))
    (hn : Path.IsPlainName n) : writeAtomically h (staging.join ⟨n⟩) content ≠ (.ok (), h') := by
  intro hwrite
  obtain ⟨made, temporary, created, _, _, hparent, htemporary, hcreate, -⟩ :=
    exists_of_writeAtomically hwrite
  obtain ⟨parent, hsome, hsteps, hroot, rfl⟩ := exists_parent_of_temporaryPath hn htemporary
  have hstart : linkStart h.directory parent = linkStart h.directory staging := by
    rw [linkStart, linkStart, hroot]
  have hbarred := isBarred_of_lost hdir hways hlost hsteps
  obtain rfl : h.files = made := by
    unfold ensureParent at hparent
    rw [hsome] at hparent
    dsimp only at hparent
    split at hparent
    · exact congrArg Prod.fst hparent
    · rename_i hmissing
      obtain ⟨hempty, hfree⟩ := Bool.or_eq_false_iff.1 (Bool.not_eq_true _ ▸ hmissing)
      obtain ⟨e, hmake⟩ := makeDirectories_of_isBarred (hstart ▸ hbarred) hempty hfree
      rw [hmake] at hparent
      cases hparent
  have htmp := isPlainName_temporaryName hn h.processId h.writes
  obtain ⟨place, -, hwalk, -⟩ := create_eq_ok hcreate
  exact walk_ne_ok_of_lost hdir hways hlost (beside_join hsteps hroot htmp) _ _ hwalk

end Lost

end StandardsGate
