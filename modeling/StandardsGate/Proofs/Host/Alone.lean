import StandardsGate.Proofs.Host.Racing
import Mathlib.Logic.Function.Iterate

/-!
A writer that is alone.

A race that has one writer, no step of which fails for a reason of its own, comes to what
`writeAtomically` does, in however many pieces the content is written: the same tree, and the file is
renamed exactly if the write succeeds. So the steps of a race are those of writes.

Main definitions:

* `Racing.Writer.alone` — what so many steps of one writer come to;
* `Racing.nextWriter` — the next write of the process of a host.

Main results:

* `Racing.Writer.alone_of_create_error`, `Racing.Writer.alone_of_create_ok` — what becomes of a
  writer that is alone;
* `Racing.writeAtomically_eq_run` — **a race with one writer is a write**.
-/

namespace StandardsGate.Racing

open FileTree

/-! ### The steps of one writer -/

variable {t created : FileTree} {dir l : Location} {n : List Char} {w : Writer} {h : Host}
  {temporary : Path}
  {before : Bytes} {runnable : Bool}

/-- What so many steps of a writer come to that is alone, from some phase and tree. -/
def Writer.alone (w : Writer) (k : Nat) (s : Phase × FileTree) : Phase × FileTree :=
  (fun s => w.step none s.2 s.1)^[k] s

theorem Writer.alone_succ (w : Writer) (k : Nat) (phase : Phase) (t : FileTree) :
    w.alone (k + 1) (phase, t) = w.alone k (w.step none t phase) := rfl

theorem Writer.alone_add (w : Writer) (j k : Nat) (s : Phase × FileTree) :
    w.alone (j + k) s = w.alone j (w.alone k s) :=
  Function.iterate_add_apply ..

theorem Writer.alone_of_step_eq {s : Phase × FileTree} (hs : w.step none s.2 s.1 = s) (k : Nat) :
    w.alone k s = s :=
  Function.iterate_fixed hs k

/-- The pieces of a file that is there are added one after the other. -/
theorem Writer.alone_pieces (hnamed : (directoryPart temporary).2 = true) (left : List Bytes)
    (hfind : (t.put l (.file before runnable)).find w.directory temporary =
      .ok (l, .file before runnable)) :
    w.alone left.length (.writing temporary left, t.put l (.file before runnable)) =
      (.writing temporary [], t.put l (.file (before ++ left.flatten) runnable)) := by
  induction left generalizing before with
  | nil => rw [List.flatten_nil, List.append_nil]; rfl
  | cons piece left ih =>
      have hput := find_put_file hfind (before ++ piece) runnable
      rw [put_put] at hput
      rw [List.length_cons, alone_succ, step, append_of_find hnamed hfind, put_put]
      dsimp only [attempt]
      rw [ih hput, List.flatten_cons, List.append_assoc]

/-- A writer that cannot create its temporary file. -/
theorem Writer.alone_of_create_error
    (htemporary : temporaryPath w.target w.process w.write = .ok temporary) {e : IoError}
    (hcreate : t.create w.directory temporary [] = .error e) :
    w.alone (w.pieces.length + 4) (.ready, t) = (.failed, t.remove w.directory temporary) := by
  rw [alone_succ, step_ready none t htemporary, hcreate]
  exact alone_of_step_eq rfl (w.pieces.length + 2)

/-- A writer that can create its temporary file fills it, and it may fail to rename it. -/
theorem Writer.alone_of_create_ok (hw : WritesTo t dir n w)
    (hlink : ∀ target, t.get? (w.place dir n) ≠ some (.link target))
    (htemporary : temporaryPath w.target w.process w.write = .ok temporary)
    (hcreate : t.create w.directory temporary [] = .ok created) :
    ∃ written, created.create w.directory temporary w.content = .ok written ∧
      w.alone (w.pieces.length + 4) (.ready, t) =
        match written.rename w.directory temporary w.target with
        | .error _ => (.failed, written.remove w.directory temporary)
        | .ok renamed => (.renamed, renamed) := by
  have hm := isPlainName_temporaryName (Path.isPlainName_of_fileName? hw.name) w.process w.write
  obtain ⟨parent, -, hdir, hbeside⟩ := hw.exists_beside htemporary
  obtain ⟨runnable, rfl, hnamed, hfind⟩ := find_of_create hdir hbeside hm hlink hcreate
  refine ⟨_, create_of_find hnamed hfind w.content, ?_⟩
  rw [put_put, alone_succ, step_ready none t htemporary, hcreate]
  dsimp only [attempt]
  generalize hwritten : t.put _ (.file w.content runnable) = written
  rw [Nat.add_comm, alone_add, alone_pieces hnamed w.pieces hfind, List.nil_append, ← content,
    hwritten, alone_succ, step]
  dsimp only [attempt]
  rw [alone_succ, step]
  cases written.rename w.directory temporary w.target <;> rfl

/-! ### The steps of a write -/

/-- The next write of the process of a host. -/
def nextWriter (h : Host) (target : Path) (pieces : List Bytes) : Writer where
  directory := h.directory
  target := target
  process := h.processId
  write := h.writes
  pieces := pieces

/-- The directory of a target that is there need not be made. -/
theorem ensureParent_of_find {faults : WriteFaults} {cwd : Location} {target parent : Path}
    (hparent : target.parent? = some parent)
    (hdir : t.find cwd (parent.join ⟨['.']⟩) = .ok (dir, .directory)) :
    ensureParent faults t cwd target = (t, .ok ()) := by
  unfold ensureParent
  rw [hparent]
  exact if_pos (isEmpty_or_exists_of_join hdir rfl rfl (by decide) (find_eq_ok_iff.1 hdir).1)

/-- A writer that is alone does what a write does. -/
theorem writeAtomically_eq_alone {target : Path} {pieces : List Bytes}
    (hw : WritesTo h.files dir n (nextWriter h target pieces))
    (hlink : ∀ q, h.files.get? ((nextWriter h target pieces).place dir n) ≠ some (.link q)) :
    ∃ done, writeAtomically h target pieces.flatten =
        (done, { h with
          files := ((nextWriter h target pieces).alone (pieces.length + 4) (.ready, h.files)).2
          writes := h.writes + 1 }) ∧
      (done = .ok () ↔ ((nextWriter h target pieces).alone (pieces.length + 4)
        (.ready, h.files)).1 = .renamed) := by
  obtain ⟨parent, hparent, hdir⟩ := hw.parent
  obtain ⟨temporary, htemporary⟩ : ∃ temporary,
      temporaryPath target h.processId h.writes = .ok temporary := by
    unfold temporaryPath
    rw [show target.fileName? = some n from hw.name]
    exact ⟨_, rfl⟩
  have hguard : ∀ {α : Type} (s : WriteStep) (done : Except IoError α),
      WriteFaults.guard (fun _ => none) s done = done := fun _ _ => rfl
  have hensure : ensureParent (fun _ => none) h.files h.directory target = (h.files, .ok ()) :=
    ensureParent_of_find hparent hdir
  unfold writeAtomically writeAtomicallyWith
  rw [hensure]
  dsimp only
  rw [hguard, htemporary]
  dsimp only
  simp only [writeTemporary, hguard]
  cases hcreate : h.files.create h.directory temporary [] with
  | error e =>
      have halone : (nextWriter h target pieces).alone (pieces.length + 4) (.ready, h.files) =
          (.failed, h.files.remove h.directory temporary) :=
        Writer.alone_of_create_error htemporary hcreate
      rw [halone]
      exact ⟨_, rfl, by simp⟩
  | ok created =>
      obtain ⟨written, hwritten, halone⟩ : ∃ written,
          created.create h.directory temporary pieces.flatten = .ok written ∧
            (nextWriter h target pieces).alone (pieces.length + 4) (.ready, h.files) =
              match written.rename h.directory temporary target with
              | .error _ => (.failed, written.remove h.directory temporary)
              | .ok renamed => (.renamed, renamed) :=
        Writer.alone_of_create_ok (w := nextWriter h target pieces) hw hlink htemporary hcreate
      rw [halone]
      dsimp only
      rw [hwritten]
      dsimp only [Except.bind]
      cases hrename : written.rename h.directory temporary target with
      | error e => exact ⟨_, rfl, by simp⟩
      | ok renamed => exact ⟨_, rfl, by simp⟩

/-- A race with one writer is what the writer does alone. -/
theorem run_replicate (w : Writer) (t : FileTree) (k : Nat) :
    (run (fun _ : Unit => w) t (List.replicate k ((), none))).phase () =
        (w.alone k (.ready, t)).1 ∧
      (run (fun _ : Unit => w) t (List.replicate k ((), none))).files =
        (w.alone k (.ready, t)).2 := by
  have hfold : ∀ (k : Nat) (s : State Unit),
      ((List.replicate k ((), none)).foldl (fun s c => s.turn (fun _ => w) c.1 c.2) s).phase () =
          (w.alone k (s.phase (), s.files)).1 ∧
        ((List.replicate k ((), none)).foldl (fun s c => s.turn (fun _ => w) c.1 c.2) s).files =
          (w.alone k (s.phase (), s.files)).2 := by
    intro k
    induction k with
    | zero => exact fun s => ⟨rfl, rfl⟩
    | succ k ih =>
        intro s
        have hphase : (s.turn (fun _ => w) () none).phase () =
            (w.step none s.files (s.phase ())).1 := by simp [State.turn]
        have hrest := ih (s.turn (fun _ => w) () none)
        rw [hphase] at hrest
        exact hrest
  exact hfold k _

/-- **A race with one writer** is a write, in however many pieces the content is written. -/
theorem writeAtomically_eq_run {target : Path} {pieces : List Bytes}
    (hw : WritesTo h.files dir n (nextWriter h target pieces))
    (hlink : ∀ q, h.files.get? ((nextWriter h target pieces).place dir n) ≠ some (.link q)) :
    ∃ done, writeAtomically h target pieces.flatten =
        (done, { h with
          files := (run (fun _ : Unit => nextWriter h target pieces) h.files
            (List.replicate (pieces.length + 4) ((), none))).files
          writes := h.writes + 1 }) ∧
      (done = .ok () ↔ (run (fun _ : Unit => nextWriter h target pieces) h.files
        (List.replicate (pieces.length + 4) ((), none))).phase () = .renamed) := by
  obtain ⟨hphase, hfiles⟩ :=
    run_replicate (nextWriter h target pieces) h.files (pieces.length + 4)
  rw [hphase, hfiles]
  exact writeAtomically_eq_alone hw hlink

end StandardsGate.Racing
