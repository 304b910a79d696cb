import StandardsGate.Lint.Staging
import StandardsGate.Proofs.Host.Action

/-!
Copies of configurations that extend nothing.

Such a configuration has no other one copied with it: the staging directory is made, and the content
is written into it under the name of the source.

Main results:

* `writeAtomically_eq_ok` — a write all of whose steps succeed;
* `run_stageConfig_of_lone` — **copying a configuration that extends nothing**.
-/

namespace StandardsGate

/-- A write all of whose steps succeed. -/
theorem writeAtomically_eq_ok {h : Host} {target temporary : Path} {content : Bytes}
    {t created written renamed : FileTree}
    (hparent : ensureParent (fun _ => none) h.files h.directory target = (t, .ok ()))
    (htemporary : temporaryPath target h.processId h.writes = .ok temporary)
    (hcreate : t.create h.directory temporary [] = .ok created)
    (hwrite : created.create h.directory temporary content = .ok written)
    (hrename : written.rename h.directory temporary target = .ok renamed) :
    writeAtomically h target content =
      (.ok (), { h with files := renamed, writes := h.writes + 1 }) := by
  have hguard : ∀ {α : Type} (s : WriteStep) (done : Except IoError α),
      WriteFaults.guard (fun _ => none) s done = done := fun _ _ => rfl
  have hwritten : writeTemporary (fun _ => none) t h.directory temporary content =
      (written, .ok ()) := by
    simp only [writeTemporary, hguard, hcreate, hwrite]
  simp only [writeAtomically, writeAtomicallyWith, hparent, hguard, htemporary, hwritten]
  rw [Except.bind, hrename]

namespace Staging

/-- At least one configuration can be copied. -/
theorem depthBound_pos (h : Host) : 0 < depthBound h := Nat.succ_pos _

variable {h h' : Host} {source staging : Path} {content : Bytes}

/-- The first part of a copy that goes on is followed by the second one. -/
theorem run_bind_of_ok {α β : Type} {x : Copying α} {met met' : List Path} {a : α}
    (hx : (x.run met).run.run h = (.ok (a, met'), h')) (f : α → Copying β) :
    ((x >>= f).run met).run.run h = ((f a).run met').run.run h' := by
  rw [StateT.run_bind, Action.run_bind_of_ok hx]

theorem run_getHost_bind {α : Type} (f : Host → Copying α) (met : List Path) :
    ((getThe Host >>= f).run met).run.run h = ((f h).run met).run.run h := rfl

theorem run_met_bind {α : Type} (f : List Path → Copying α) (met : List Path) :
    ((get >>= f).run met).run.run h = ((f met).run met).run.run h := rfl

theorem run_meet_bind {α : Type} (key : Path) (f : Unit → Copying α) (met : List Path) :
    ((modify (key :: ·) >>= f).run met).run.run h = ((f ()).run (key :: met)).run.run h := rfl

theorem run_readSource (hread : h.files.read h.directory source = .ok content)
    (met : List Path) :
    ((readSource source).run met).run.run h = (.ok (content, met), h) := by
  unfold readSource
  rw [run_getHost_bind, hread]
  rfl

theorem run_writeCopy {copy : Path} (hwrite : writeAtomically h copy content = (.ok (), h'))
    (met : List Path) :
    ((writeCopy copy content).run met).run.run h = (.ok ((), met), h') :=
  Action.run_bind_of_ok (run_onHost_of_ok _ hwrite) _

/-- Copying a configuration that extends nothing is writing its content under its name. -/
theorem run_copyConfig_of_lone {name : List Char} (fuel : Nat)
    (hname : source.fileName? = some name)
    (hread : h.files.read h.directory source = .ok content)
    (hextends : extendsEntries content = [])
    (hwrite : writeAtomically h (staging.join ⟨name⟩) content = (.ok (), h')) :
    ((copyConfig (fuel + 1) staging source).run []).run.run h =
      (.ok (staging.join ⟨name⟩, [sourceKey h source]), h') := by
  have hcopy : copyContent content ∅ = content := rfl
  unfold copyConfig
  simp only [hname]
  rw [run_getHost_bind, run_met_bind, if_neg (by simp), run_meet_bind,
    run_bind_of_ok (run_readSource hread _), hextends, List.foldlM_nil, pure_bind, hcopy,
    run_bind_of_ok (run_writeCopy hwrite _)]
  rfl

end Staging

open Staging in
/-- **Copying a configuration that extends nothing.** -/
theorem run_stageConfig_of_lone {h h' : Host} {source staging : Path} {content : Bytes}
    {name : List Char} {files : FileTree}
    (hmake : h.files.makeDirectories h.directory staging = (files, .ok ()))
    (hname : source.fileName? = some name)
    (hread : files.read h.directory source = .ok content)
    (hextends : extendsEntries content = [])
    (hwrite : writeAtomically { h with files := files } (staging.join ⟨name⟩) content =
      (.ok (), h')) :
    (stageConfig source staging).run.run h = (.ok (staging.join ⟨name⟩), h') := by
  obtain ⟨fuel, hfuel⟩ := Nat.exists_eq_add_one_of_ne_zero (Nat.ne_of_gt (depthBound_pos { h with files := files }))
  unfold stageConfig
  refine (Action.run_bind_of_ok (run_onHost_of_ok _
    (?_ : _ = (Except.ok (), { h with files := files }))) _).trans ?_
  · rw [hmake]
  · rw [Action.run_bind_of_ok (Action.run_get _), hfuel, map_eq_pure_bind]
    exact Action.run_bind_of_ok (run_copyConfig_of_lone fuel hname hread hextends hwrite) _

end StandardsGate
