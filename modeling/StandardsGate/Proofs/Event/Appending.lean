import StandardsGate.CommandLine.Answer
import StandardsGate.Proofs.Host.Appending

/-!
Events at the end of a file.

The first event that is recorded creates the file of the log, if it is missing, and the directory of
the file. From then on the path of the log leads to that file, and each event stands behind what the
file has held before.

Main definitions:

* `Host.event` — the event of a record, as it happens on a host;
* `Event.Tells` — whether an event is what a record says.

Main results:

* `EventLog.run_appendEvent_of_find`, `EventLog.run_record_of_find` — **an event is added to a log
  that is there**;
* `EventLog.find_of_run_appendEvent`, `EventLog.find_of_run_record` — what a log holds when its first
  event has been recorded;
* `EventLog.exists_find_of_run_appendAll`, `EventLog.find_of_run_appendAll` — **what a log holds when
  many events have been added**.
-/

namespace StandardsGate

/-! ### Records -/

/-- The event of a record, as it happens on a host. -/
def Host.event (h : Host) (r : Record) : Event :=
  ⟨h.now, r.occurrence, h.actor, r.standard, r.checker, .ofMembers r.details⟩

/-- Whether an event is what a record says. -/
structure Event.Tells (e : Event) (r : Record) : Prop where
  occurrence : e.occurrence = r.occurrence
  standard : e.standard = r.standard
  checker : e.checker = r.checker
  details : e.details = .ofMembers r.details

theorem Host.tells_event (h : Host) (r : Record) : (h.event r).Tells r := ⟨rfl, rfl, rfl, rfl⟩

namespace EventLog

open FileTree

variable {file : Path} {h h' : Host} {l : Location} {before : Bytes} {runnable : Bool}

/-- To record something is to add its event to the file of the log. -/
theorem run_record (file : Path) (r : Record) (h : Host) :
    ((recorder ⟨some file⟩).record r).run.run h =
      (appendEvent file (h.event r)).run.run h :=
  Action.run_bind_of_ok (Action.run_get h) _

/-- Creating the directory of a log changes no file. -/
theorem exists_of_ensureLogDirectory (hrun : (ensureLogDirectory file).run.run h = (.ok (), h')) :
    ∃ files, h' = { h with files := files } ∧ ∀ l, files.contentAt l = h.files.contentAt l := by
  unfold ensureLogDirectory at hrun
  rw [Action.run_bind_of_ok (Action.run_get h)] at hrun
  split at hrun
  · cases hrun
    exact ⟨h.files, rfl, fun l => rfl⟩
  · rename_i parent hparent
    split at hrun
    · cases hrun
      exact ⟨h.files, rfl, fun l => rfl⟩
    · obtain ⟨-, rfl⟩ := Prod.mk.inj (eq_ok_of_run_onHost hrun)
      exact ⟨_, rfl, contentAt_makeDirectories _ _ _⟩

/-- A log that is there is in a directory. -/
theorem run_ensureLogDirectory_of_find (hnamed : (directoryPart file).2 = true)
    (hfind : h.files.find h.directory file = .ok (l, .file before runnable)) :
    (ensureLogDirectory file).run.run h = (.ok (), h) := by
  unfold ensureLogDirectory
  rw [Action.run_bind_of_ok (Action.run_get h)]
  cases hparent : file.parent? with
  | none => rfl
  | some parent =>
      dsimp only
      rw [exists_parent_of_find hnamed hfind hparent, if_pos rfl]
      rfl

/-- **An event is added to a log that is there.** -/
theorem run_appendEvent_of_find (hnamed : (directoryPart file).2 = true)
    (hfind : h.files.find h.directory file = .ok (l, .file before runnable)) (e : Event) :
    (appendEvent file e).run.run h =
      (.ok (), { h with files := h.files.put l (.file (before ++ e.lineBytes) runnable) }) := by
  rw [appendEvent, Action.run_bind_of_ok (run_ensureLogDirectory_of_find hnamed hfind)]
  refine run_onHost_of_ok _ ?_
  rw [append_of_find hnamed hfind]

theorem run_record_of_find (hnamed : (directoryPart file).2 = true)
    (hfind : h.files.find h.directory file = .ok (l, .file before runnable)) (r : Record) :
    ((recorder ⟨some file⟩).record r).run.run h =
      (.ok (), { h with
        files := h.files.put l (.file (before ++ (h.event r).lineBytes) runnable) }) := by
  rw [run_record]
  exact run_appendEvent_of_find hnamed hfind (h.event r)

theorem isFile_of_run_appendEvent {e : Event}
    (hrun : (appendEvent file e).run.run h = (.ok (), h')) :
    h'.files.isFile h'.directory file = true := by
  rw [appendEvent] at hrun
  obtain ⟨⟨⟩, h₁, hensure, hrun⟩ := Action.run_bind_eq_ok hrun
  obtain ⟨files, rfl, -⟩ := exists_of_ensureLogDirectory hensure
  have happend := eq_ok_of_run_onHost hrun
  split at happend
  · rename_i appended happended
    cases happend
    exact isFile_of_append happended
  · cases happend

/-- **What a log holds when its first event has been added**: what has been there before, and the
event. -/
theorem find_of_run_appendEvent {e : Event}
    (hrun : (appendEvent file e).run.run h = (.ok (), h'))
    (hfile : h'.files.isFile h'.directory file = true) :
    (directoryPart file).2 = true ∧ ∃ l runnable,
      h'.files.find h'.directory file =
        .ok (l, .file (h.files.contentAt l ++ e.lineBytes) runnable) ∧
      ∀ before, h.files.read h.directory file = .ok before → h.files.contentAt l = before := by
  rw [appendEvent] at hrun
  obtain ⟨⟨⟩, h₁, hensure, hrun⟩ := Action.run_bind_eq_ok hrun
  obtain ⟨files, rfl, hcontent⟩ := exists_of_ensureLogDirectory hensure
  have happend := eq_ok_of_run_onHost hrun
  split at happend
  · rename_i appended happended
    cases happend
    obtain ⟨hnamed, -⟩ := append_eq_ok happended
    obtain ⟨l, runnable, hfind⟩ := find_of_append happended hfile
    rw [hcontent] at hfind
    refine ⟨hnamed, l, runnable, hfind, fun before hread => ?_⟩
    -- a log that can be read is in a directory already, and is added to where it is
    obtain ⟨l', runnable', hfound⟩ := exists_find_of_read hread
    have hsame := (run_ensureLogDirectory_of_find hnamed hfound).symm.trans hensure
    obtain rfl : h.files = files := congrArg (fun result => result.2.files) hsame
    obtain rfl := Except.ok.inj ((append_of_find hnamed hfound _).symm.trans happended)
    obtain rfl : l' = l :=
      congrArg Prod.fst (Except.ok.inj ((find_put_file hfound _ _).symm.trans hfind))
    exact contentAt_of_find hfound
  · cases happend

theorem find_of_run_record {r : Record}
    (hrun : ((recorder ⟨some file⟩).record r).run.run h = (.ok (), h'))
    (hfile : h'.files.isFile h'.directory file = true) :
    (directoryPart file).2 = true ∧ ∃ l runnable,
      h'.files.find h'.directory file =
        .ok (l, .file (h.files.contentAt l ++ (h.event r).lineBytes) runnable) ∧
      ∀ before, h.files.read h.directory file = .ok before → h.files.contentAt l = before := by
  rw [run_record] at hrun
  exact find_of_run_appendEvent hrun hfile

/-! ### Many events -/

/-- Events are added to a log that is there one behind the other. -/
theorem run_appendAll_of_find (hnamed : (directoryPart file).2 = true) (es : List Event) :
    ∀ {h : Host} {before : Bytes},
      h.files.find h.directory file = .ok (l, .file before runnable) →
      ∃ h', (forM es (appendEvent file)).run.run h = (.ok (), h') ∧
        h'.files.find h'.directory file =
          .ok (l, .file (before ++ es.flatMap Event.lineBytes) runnable) := by
  induction es with
  | nil =>
      intro h before hfind
      exact ⟨h, rfl, by rwa [List.flatMap_nil, List.append_nil]⟩
  | cons e es ih =>
      intro h before hfind
      have hrun := run_appendEvent_of_find hnamed hfind e
      generalize hnext : { h with
        files := h.files.put l (.file (before ++ e.lineBytes) runnable) } = next at hrun
      have hfound : next.files.find next.directory file =
          .ok (l, .file (before ++ e.lineBytes) runnable) := by
        rw [← hnext]
        exact find_put_file hfind _ _
      obtain ⟨h', hrest, hfind'⟩ := ih hfound
      refine ⟨h', ?_, ?_⟩
      · rw [List.forM_cons, Action.run_bind_of_ok hrun]
        exact hrest
      · rwa [List.flatMap_cons, ← List.append_assoc]

/-- **What a log holds when many events have been added**: what has been there before, and the
events. -/
theorem exists_find_of_run_appendAll {es : List Event} (hsome : es ≠ [])
    (hrun : (forM es (appendEvent file)).run.run h = (.ok (), h')) :
    ∃ l runnable, h'.files.find h'.directory file =
        .ok (l, .file (h.files.contentAt l ++ es.flatMap Event.lineBytes) runnable) ∧
      ∀ before, h.files.read h.directory file = .ok before → h.files.contentAt l = before := by
  obtain ⟨e, es, rfl⟩ := List.exists_cons_of_ne_nil hsome
  rw [List.forM_cons] at hrun
  obtain ⟨⟨⟩, h₁, hfirst, hrest⟩ := Action.run_bind_eq_ok hrun
  obtain ⟨hnamed, l, runnable, hfind, hbefore⟩ :=
    find_of_run_appendEvent hfirst (isFile_of_run_appendEvent hfirst)
  obtain ⟨h'', hrest', hfind'⟩ := run_appendAll_of_find hnamed es hfind
  obtain rfl : h'' = h' := congrArg Prod.snd (hrest'.symm.trans hrest)
  rw [List.append_assoc] at hfind'
  exact ⟨l, runnable, hfind', hbefore⟩

theorem find_of_run_appendAll {es : List Event} {after : Bytes}
    (hrun : (forM es (appendEvent file)).run.run h = (.ok (), h'))
    (hfind : h'.files.find h'.directory file = .ok (l, .file after runnable)) :
    after = h.files.contentAt l ++ es.flatMap Event.lineBytes ∧
      ∀ before, h.files.read h.directory file = .ok before → h.files.contentAt l = before := by
  by_cases hsome : es = []
  · subst hsome
    cases hrun
    rw [List.flatMap_nil, List.append_nil, contentAt_of_find hfind]
    refine ⟨rfl, fun before hread => ?_⟩
    rw [FileTree.read, hfind] at hread
    exact Except.ok.inj hread
  · obtain ⟨l', runnable', hfound, hbefore⟩ := exists_find_of_run_appendAll hsome hrun
    obtain ⟨rfl, hsame⟩ := Prod.mk.inj (Except.ok.inj (hfound.symm.trans hfind))
    obtain ⟨rfl, -⟩ := Entry.file.inj hsame
    exact ⟨rfl, hbefore⟩

end EventLog

end StandardsGate
