import Mathlib.Data.Nat.Digits.Lemmas
import StandardsGate.Proofs.Host.Places
import StandardsGate.Proofs.Host.Writing
import StandardsGate.Proofs.Lint.Staging
import StandardsGate.Proofs.Staging.Running

/-!
Copying comes to an end.

The paths along which configurations are reached can grow on a cycle, but the places where they stand
cannot: their paths are made of the working directory, of a path that is short enough to be looked up,
and of the targets of links. So there are only so many places, each is met once, and configurations
extend each other no deeper than that.

Main definitions:

* `Staging.Bounded` — what bounds the number of sources that have been met.

Main results:

* `Staging.length_le_of_distinct` — how many short texts there are;
* `Staging.Runs.bounded` — **a copy keeps the bounds**;
* `Staging.exists_runs` — **copying comes to an end**, and does what the run does.
-/

namespace StandardsGate.Staging

open FileTree

/-! ### How many short texts there are -/

/-- A text as a number, a character being a digit that is not zero. -/
def codeOf (cs : List Char) : Nat := Nat.ofDigits (characters + 1) (cs.map fun c => c.toNat + 1)

theorem toNat_lt_characters (c : Char) : c.toNat < characters := by
  have h := c.valid
  unfold characters
  rcases h with h | ⟨-, h⟩
  · exact Nat.lt_trans h (by decide)
  · exact h

theorem codeOf_injective : Function.Injective codeOf := by
  intro cs cs' h
  have hdigits : ∀ cs : List Char, Nat.digits (characters + 1) (codeOf cs) =
      cs.map fun c => c.toNat + 1 := by
    intro cs
    refine Nat.digits_ofDigits _ (by decide) _ (fun d hd => ?_) fun hne => ?_
    · obtain ⟨c, -, rfl⟩ := List.mem_map.1 hd
      exact Nat.succ_lt_succ (toNat_lt_characters c)
    · obtain ⟨c, -, hc⟩ := List.mem_map.1 (List.getLast_mem hne)
      rw [← hc]
      exact Nat.succ_ne_zero _
  have hmap := (hdigits cs).symm.trans ((congrArg _ h).trans (hdigits cs'))
  exact List.map_injective_iff.2 (fun c c' hc => Char.toNat_inj.1 (Nat.succ.inj hc)) hmap

theorem codeOf_lt {cs : List Char} {n : Nat} (h : cs.length ≤ n) :
    codeOf cs < Nat.pow (characters + 1) n := by
  have hlt : codeOf cs < (characters + 1) ^ (cs.map fun c => c.toNat + 1).length := by
    refine Nat.ofDigits_lt_base_pow_length (by decide) fun d hd => ?_
    obtain ⟨c, -, rfl⟩ := List.mem_map.1 hd
    exact Nat.succ_lt_succ (toNat_lt_characters c)
  rw [List.length_map] at hlt
  exact Nat.lt_of_lt_of_le hlt (Nat.pow_le_pow_right (Nat.succ_pos _) h)

/-- How many paths with different components can be that short. -/
theorem length_le_of_distinct {paths : List Path} {n : Nat} (h : Distinct paths)
    (hshort : ∀ p ∈ paths, p.chars.length ≤ n) :
    paths.length ≤ Nat.pow (characters + 1) n := by
  have hcodes : (paths.map fun p => codeOf p.chars).Nodup := by
    refine List.Nodup.map (fun p q hpq => ?_) (List.Nodup.of_map _ h)
    obtain ⟨cs⟩ := p
    obtain ⟨cs'⟩ := q
    exact congrArg Path.mk (codeOf_injective hpq)
  have hsub : (paths.map fun p => codeOf p.chars) ⊆ List.range (Nat.pow (characters + 1) n) := by
    intro code hcode
    obtain ⟨p, hp, rfl⟩ := List.mem_map.1 hcode
    exact List.mem_range.2 (codeOf_lt (hshort p hp))
  have hlength := (List.subperm_of_subset hcodes hsub).length_le
  rwa [List.length_map, List.length_range] at hlength

/-! ### Bounds -/

/-- How many places there can be that some path leads to from a working directory, if no link has a
longer target than that. -/
def placeBound (cwd : Location) (longest : Nat) : Nat :=
  Nat.pow (characters + 1) (cwd.path.chars.length + (pathLimit + 1) + linkLimit * (longest + 1))

/-- What bounds the number of sources that have been met: they stand at different places, whose paths
are made of the working directory, of a path and of links. -/
structure Bounded (cwd : Location) (longest : Nat) (s : Progress) : Prop where
  directory : s.host.directory = cwd
  links : s.host.files.LinksWithin longest
  distinct : Distinct s.met
  short : ∀ key ∈ s.met, key.chars.length ≤
    cwd.path.chars.length + (pathLimit + 1) + linkLimit * (longest + 1)

variable {cwd : Location} {longest : Nat} {staging source : Path} {task : Task} {s s' : Progress}
  {result : Except Error Path} {content : Bytes}

theorem Bounded.length_met_le (h : Bounded cwd longest s) :
    s.met.length ≤ placeBound cwd longest :=
  length_le_of_distinct h.distinct h.short

theorem linksWithin_of_linksFrom {t t' : FileTree} (h : t.LinksWithin longest)
    (hfrom : LinksFrom t t') : t'.LinksWithin longest := by
  intro l target hl
  obtain ⟨l', hl'⟩ := hfrom l target hl
  exact h l' target hl'

theorem sourceKey_of_find {h : Host} {l : Location} {e : Entry}
    (hfind : h.files.find h.directory source = .ok (l, e)) : sourceKey h source = l.path := by
  rw [sourceKey, canonical?, hfind]
  rfl

theorem Bounded.reading (h : Bounded cwd longest s) (hfresh : s.hasMet source = false)
    (hread : s.host.files.read s.host.directory source = .ok content) :
    Bounded cwd longest (s.reading source) := by
  obtain ⟨l, runnable, hfind⟩ := exists_find_of_read hread
  refine ⟨h.directory, h.links, List.nodup_cons.2 ⟨Progress.hasMet_eq_false.1 hfresh, h.distinct⟩,
    List.forall_mem_cons.2 ⟨?_, h.short⟩⟩
  rw [sourceKey_of_find hfind]
  rw [h.directory] at hfind
  exact length_path_of_find hfind h.links

/-- **A copy keeps the bounds.** -/
theorem Runs.bounded (hruns : Runs staging task s result s') {copy : Path}
    (hresult : result = .ok copy) (h : Bounded cwd longest s) : Bounded cwd longest s' := by
  induction hruns generalizing copy with
  | nameless | unreadable | failed | unwritable => cases hresult
  | met => exact h
  | start _ hfresh hread _ ih => exact ih hresult (h.reading hfresh hread)
  | skipped _ _ ih => exact ih hresult h
  | followed _ _ _ ihFirst ihMore => exact ihMore hresult (ihFirst rfl h)
  | written _ hwrite =>
      have hhost := hwrite
      obtain ⟨_, _, _, _, renamed, _, _, _, _, _, rfl⟩ := exists_of_writeAtomically hwrite
      exact ⟨h.directory, linksWithin_of_linksFrom h.links (linksFrom_of_writeAtomically hhost), h.distinct,
        h.short⟩

theorem Runs.length_met_le (hruns : Runs staging task s result s') :
    s.met.length ≤ s'.met.length := by
  obtain ⟨new, -, hmet, -⟩ := hruns.exists_log
  rw [hmet, List.length_append]
  exact Nat.le_add_left _ _

/-! ### The calls of the program -/

/-- What is done with an entry when configurations may extend each other so deep. -/
def followEntry (fuel : Nat) (staging source : Path) (renames : SortedMap String)
    (entry : String) : Copying (SortedMap String) := do
  if !(← isFile (entryPath source entry)) then return renames
  let copy ← copyConfig fuel staging (entryPath source entry)
  return renameTo renames entry copy

/-- The rest of a copy: the entries that are left are followed, and the copy is written. -/
def followRest (fuel : Nat) (staging source copy : Path) (content : Bytes) (entries : List String)
    (renames : SortedMap String) : Copying Path := do
  let renames ← entries.foldlM (followEntry fuel staging source) renames
  writeCopy copy (copyContent content renames)
  return copy

variable {h h' : Host} {met met' : List Path} {name : List Char} {fuel : Nat}

theorem run_bind_of_error {α β : Type} {x : Copying α} {e : Error}
    (hx : (x.run met).run.run h = (.error e, h')) (f : α → Copying β) :
    ((x >>= f).run met).run.run h = (.error e, h') := by
  rw [StateT.run_bind, Action.run_bind_of_error hx]

theorem run_writeCopy_of_error {copy : Path} {e : IoError}
    (hwrite : writeAtomically h copy content = (.error e, h')) :
    ((writeCopy copy content).run met).run.run h =
      (.error (.config (.unwritableCopy copy e)), h') := by
  have honHost : (onHost (fun e => .config (.unwritableCopy copy e)) fun h =>
      writeAtomically h copy content).run.run h = (.error (.config (.unwritableCopy copy e)), h') := by
    unfold onHost
    simp only [ExceptT.run, StateT.run, hwrite]
  exact Action.run_bind_of_error honHost _

theorem copyConfig_of_nameless (hname : source.fileName? = none) :
    ((copyConfig (fuel + 1) staging source).run met).run.run h =
      (.error (.config (.namelessConfig source)), h) := by
  unfold copyConfig
  rw [hname]
  rfl

theorem copyConfig_of_met (hname : source.fileName? = some name)
    (hmet : met.any (·.same (sourceKey h source)) = true) :
    ((copyConfig (fuel + 1) staging source).run met).run.run h =
      (.ok (staging.join ⟨name⟩, met), h) := by
  unfold copyConfig
  simp only [hname]
  rw [run_getHost_bind, run_met_bind, if_pos hmet]
  rfl

theorem copyConfig_of_unreadable {e : IoError} (hname : source.fileName? = some name)
    (hfresh : met.any (·.same (sourceKey h source)) = false)
    (hread : h.files.read h.directory source = .error e) :
    ((copyConfig (fuel + 1) staging source).run met).run.run h =
      (.error (.config (.unreadableConfig source e)), h) := by
  have hreadSource : ((readSource source).run (sourceKey h source :: met)).run.run h =
      (.error (.config (.unreadableConfig source e)), h) := by
    unfold readSource
    rw [run_getHost_bind, hread]
    rfl
  unfold copyConfig
  simp only [hname]
  rw [run_getHost_bind, run_met_bind, hfresh, if_neg Bool.false_ne_true, run_meet_bind]
  exact run_bind_of_error hreadSource _

theorem copyConfig_of_fresh (hname : source.fileName? = some name)
    (hfresh : met.any (·.same (sourceKey h source)) = false)
    (hread : h.files.read h.directory source = .ok content) :
    ((copyConfig (fuel + 1) staging source).run met).run.run h =
      ((followRest fuel staging source (staging.join ⟨name⟩) content (extendsEntries content)
        ∅).run (sourceKey h source :: met)).run.run h := by
  unfold copyConfig
  simp only [hname]
  rw [run_getHost_bind, run_met_bind, hfresh, if_neg Bool.false_ne_true, run_meet_bind,
    run_bind_of_ok (run_readSource hread _)]
  refine congrArg (fun step => (((extendsEntries content).foldlM step ∅ >>= _ :
    Copying Path).run _).run.run h) (funext fun renames => funext fun entry => ?_)
  refine congrArg (isFile _ >>= ·) (funext fun file => ?_)
  split
  · rfl
  · refine congrArg (copyConfig fuel staging _ >>= ·) (funext fun copy => ?_)
    unfold renameTo
    cases copy.fileName? with
    | none => rfl
    | some name => exact (apply_ite pure ..).symm

section Following

variable {copy : Path} {entry : String} {entries : List String} {renames : SortedMap String}

theorem followRest_nil :
    followRest fuel staging source copy content [] renames =
      (do writeCopy copy (copyContent content renames); return copy) := by
  rw [followRest, List.foldlM_nil, pure_bind]

theorem followRest_cons :
    followRest fuel staging source copy content (entry :: entries) renames =
      followEntry fuel staging source renames entry >>=
        followRest fuel staging source copy content entries := by
  rw [followRest, List.foldlM_cons, bind_assoc]
  rfl

theorem followEntry_of_not_file
    (hfile : h.files.isFile h.directory (entryPath source entry) = false) :
    ((followEntry fuel staging source renames entry).run met).run.run h = (.ok (renames, met), h) := by
  have hrun : ((isFile (entryPath source entry)).run met).run.run h = (.ok (false, met), h) := by
    rw [← hfile]
    rfl
  unfold followEntry
  rw [run_bind_of_ok hrun]
  rfl

theorem followEntry_of_file (hfile : h.files.isFile h.directory (entryPath source entry) = true) :
    ((followEntry fuel staging source renames entry).run met).run.run h =
      ((copyConfig fuel staging (entryPath source entry) >>= fun copy =>
        pure (renameTo renames entry copy)).run met).run.run h := by
  have hrun : ((isFile (entryPath source entry)).run met).run.run h = (.ok (true, met), h) := by
    rw [← hfile]
    rfl
  unfold followEntry
  rw [run_bind_of_ok hrun]
  rfl

end Following

/-! ### The end -/

/-- Whether a task comes to an end, and a program does what is done then. -/
def Completes (staging : Path) (task : Task) (s : Progress) (program : Copying Path) : Prop :=
  ∃ result s', Runs staging task s result s' ∧
    (program.run s.met).run.run s.host = (result.map (·, s'.met), s'.host)

/-- The rest of a copy comes to an end if all copies do with less fuel. -/
theorem completes_follow {key : Path} {renames : SortedMap String} {bound : Nat}
    (hname : source.fileName? = some name)
    (ih : ∀ source s, Bounded cwd longest s → bound < s.met.length + fuel →
      Completes staging (.copy source) s (copyConfig fuel staging source))
    {entries : List String} (hs : Bounded cwd longest s) (hfuel : bound < s.met.length + fuel) :
    Completes staging (.follow key source content entries renames) s
      (followRest fuel staging source (staging.join ⟨name⟩) content entries renames) := by
  induction entries generalizing renames s with
  | nil =>
      rw [followRest_nil]
      cases hwrite : writeAtomically s.host (staging.join ⟨name⟩) (copyContent content renames) with
      | mk result h =>
          cases result with
          | error e =>
              refine ⟨_, _, .unwritable hname hwrite, ?_⟩
              exact run_bind_of_error (run_writeCopy_of_error hwrite) _
          | ok =>
              refine ⟨_, _, .written hname hwrite, ?_⟩
              rw [run_bind_of_ok (run_writeCopy hwrite _)]
              rfl
  | cons entry entries ihEntries =>
      rw [followRest_cons]
      cases hfile : s.host.files.isFile s.host.directory (entryPath source entry) with
      | false =>
          obtain ⟨result, s', hruns, hprogram⟩ :
              Completes staging (.follow key source content entries renames) s _ :=
            ihEntries hs hfuel
          refine ⟨result, s', .skipped hfile hruns, ?_⟩
          rw [run_bind_of_ok (followEntry_of_not_file hfile), hprogram]
      | true =>
          obtain ⟨first, s₁, hfirst, hcopy⟩ := ih (entryPath source entry) s hs hfuel
          cases first with
          | error e =>
              refine ⟨_, s₁, .failed hfile hfirst, run_bind_of_error ?_ _⟩
              rw [followEntry_of_file hfile]
              exact run_bind_of_error hcopy _
          | ok copy =>
              have hs₁ := hfirst.bounded rfl hs
              have hgrow := hfirst.length_met_le
              obtain ⟨result, s', hruns, hprogram⟩ : Completes staging
                  (.follow key source content entries (renameTo renames entry copy)) s₁ _ :=
                ihEntries hs₁ (by omega)
              refine ⟨result, s', .followed hfile hfirst hruns, ?_⟩
              have hentry : ((followEntry fuel staging source renames entry).run s.met).run.run
                  s.host = (.ok (renameTo renames entry copy, s₁.met), s₁.host) := by
                rw [followEntry_of_file hfile, run_bind_of_ok hcopy]
                rfl
              rw [run_bind_of_ok hentry, hprogram]

/-- **Copying comes to an end** before so many levels are through that there are not as many texts
that can be the path of a place. -/
theorem completes_copy (fuel : Nat) {source : Path} {s : Progress} (hs : Bounded cwd longest s)
    (hfuel : placeBound cwd longest < s.met.length + fuel) :
    Completes staging (.copy source) s (copyConfig fuel staging source) := by
  induction fuel generalizing source s with
  | zero => exact absurd hs.length_met_le (Nat.not_le.2 hfuel)
  | succ fuel ih =>
      cases hname : source.fileName? with
      | none => exact ⟨_, s, .nameless hname, copyConfig_of_nameless hname⟩
      | some name =>
          cases hfresh : s.hasMet source with
          | true => exact ⟨_, s, .met hname hfresh, copyConfig_of_met hname hfresh⟩
          | false =>
              cases hread : s.host.files.read s.host.directory source with
              | error e =>
                  exact ⟨_, _, .unreadable hname hfresh hread,
                    copyConfig_of_unreadable hname hfresh hread⟩
              | ok content =>
                  have hmore : placeBound cwd longest < (s.reading source).met.length + fuel := by
                    rw [Progress.reading, List.length_cons]
                    omega
                  obtain ⟨result, s', hruns, hprogram⟩ := completes_follow hname
                    (fun source s hs hfuel => ih hs hfuel) (hs.reading hfresh hread) hmore
                  refine ⟨result, s', .start hname hfresh hread hruns, ?_⟩
                  rw [copyConfig_of_fresh hname hfresh hread]
                  exact hprogram

theorem bounded_start (h : Host) : Bounded h.directory h.files.longestTarget ⟨h, [], []⟩ :=
  ⟨rfl, linksWithin_longestTarget h.files, List.nodup_nil, fun _ hkey => absurd hkey List.not_mem_nil⟩

/-- **A staging comes to an end**, and it does what its run does. -/
theorem exists_stages (h : Host) (source staging : Path) :
    ∃ result s, Stages h source staging result s ∧
      (stageConfig source staging).run.run h = (result, s.host) := by
  unfold stageConfig
  rcases hmade : h.files.makeDirectories h.directory staging with ⟨files, made⟩
  cases made with
  | error e =>
      refine ⟨_, _, .unmade hmade, Action.run_bind_of_error ?_ _⟩
      unfold onHost
      simp only [ExceptT.run, StateT.run, hmade]
  | ok =>
      have hfuel : placeBound h.directory files.longestTarget <
          0 + depthBound { h with files := files } := by
        rw [Nat.zero_add]
        exact Nat.lt_succ_self _
      obtain ⟨result, s, hruns, hprogram⟩ : Completes staging (.copy source) _ _ :=
        completes_copy _ (bounded_start { h with files := files }) hfuel
      refine ⟨result, s, .made hmade hruns, ?_⟩
      refine (Action.run_bind_of_ok
        (?_ : _ = (Except.ok (), ({ h with files := files } : Host))) _).trans ?_
      · unfold onHost
        simp only [ExceptT.run, StateT.run, hmade]
      rw [Action.run_bind_of_ok (Action.run_get _), map_eq_pure_bind]
      cases result with
      | error e => exact Action.run_bind_of_error hprogram _
      | ok copy => exact Action.run_bind_of_ok hprogram _

theorem exists_stages_of_run {h h' : Host} {source : Path} {result : Except Error Path}
    (hrun : (stageConfig source staging).run.run h = (result, h')) :
    ∃ s, Stages h source staging result s ∧ s.host = h' := by
  obtain ⟨result', s, hstages, hrun'⟩ := exists_stages h source staging
  cases hrun.symm.trans hrun'
  exact ⟨s, hstages, rfl⟩

end StandardsGate.Staging
