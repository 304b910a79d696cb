import StandardsGate.Lint.Staging
import Mathlib.Data.List.Perm.Subperm

/-!
How configurations are copied, step by step.

The copying of a configuration calls itself for each entry that leads to a file. Here it is a relation
with one rule for each way in which such a call goes on or ends. No rule bounds how deep the calls
nest, so that a run in the sense of the relation is one that has come to an end by itself. What is
read and written on the way is kept in a log.

Main definitions:

* `Staging.Event`, `Staging.Progress` — what is logged, and how far a run has come;
* `Staging.Runs` — the run of a call, and that of the rest of a loop over entries;
* `Staging.Stages` — the run of a whole staging.

Main results:

* `Staging.Runs.unique` — **a run has one outcome**;
* `Staging.Runs.exists_log` — **copies are written of what is read, one of each**;
* `Staging.Runs.exists_write` — if a run succeeds, all copies have been written;
* `Staging.Runs.distinct_met` — **nothing is read twice**.
-/

namespace StandardsGate.Staging

/-- What a run does to configurations. A key is the path of the place where a source stands. -/
inductive Event
  /-- A source is read. -/
  | read (key source : Path)
  /-- The copy of a source is written, with this content. -/
  | write (key source : Path) (content : Bytes)

/-- How far a run has come. The log has the last event first. -/
structure Progress where
  host : Host
  /-- The keys of the sources that have been met. -/
  met : List Path
  log : List Event

namespace Progress

/-- A source is met, and read. -/
def reading (s : Progress) (source : Path) : Progress where
  host := s.host
  met := sourceKey s.host source :: s.met
  log := .read (sourceKey s.host source) source :: s.log

/-- A copy is written, which leaves the host as it then is. -/
def writing (s : Progress) (key source : Path) (content : Bytes) (h : Host) : Progress where
  host := h
  met := s.met
  log := .write key source content :: s.log

/-- Whether the source at a path has been met. -/
def hasMet (s : Progress) (source : Path) : Bool := s.met.any (·.same (sourceKey s.host source))

end Progress

/-- The path that an entry of a source names. -/
def entryPath (source : Path) (entry : String) : Path :=
  (source.parent?.getD ⟨['.']⟩).join (.ofString entry)

/-- The renamed entries, with one more if it has to be renamed to lead to a copy. -/
def renameTo (renames : SortedMap String) (entry : String) (copy : Path) : SortedMap String :=
  match copy.fileName? with
  | some name =>
    if namesSibling entry name then renames
    else renames.insert entry (String.ofList ('.' :: '/' :: name))
  | none => renames

/-- What is to be done: to copy a source, or to follow the rest of its entries and write its copy. -/
inductive Task
  | copy (source : Path)
  | follow (key source : Path) (content : Bytes) (entries : List String)
      (renames : SortedMap String)

/-- A task, how far things were before it, what came of it, and how far things are then. -/
inductive Runs (staging : Path) : Task → Progress → Except Error Path → Progress → Prop
  | nameless {source : Path} {s : Progress} (hname : source.fileName? = none) :
      Runs staging (.copy source) s (.error (.config (.namelessConfig source))) s
  | met {source : Path} {s : Progress} {name : List Char} (hname : source.fileName? = some name)
      (hmet : s.hasMet source = true) :
      Runs staging (.copy source) s (.ok (staging.join ⟨name⟩)) s
  | unreadable {source : Path} {s : Progress} {name : List Char} {e : IoError}
      (hname : source.fileName? = some name) (hfresh : s.hasMet source = false)
      (hread : s.host.files.read s.host.directory source = .error e) :
      Runs staging (.copy source) s (.error (.config (.unreadableConfig source e)))
        (s.reading source)
  | start {source : Path} {s s' : Progress} {name : List Char} {content : Bytes}
      {result : Except Error Path} (hname : source.fileName? = some name)
      (hfresh : s.hasMet source = false)
      (hread : s.host.files.read s.host.directory source = .ok content)
      (more : Runs staging
        (.follow (sourceKey s.host source) source content (extendsEntries content) ∅)
        (s.reading source) result s') :
      Runs staging (.copy source) s result s'
  | skipped {key source : Path} {content : Bytes} {entry : String} {entries : List String}
      {renames : SortedMap String} {s s' : Progress} {result : Except Error Path}
      (hfile : s.host.files.isFile s.host.directory (entryPath source entry) = false)
      (more : Runs staging (.follow key source content entries renames) s result s') :
      Runs staging (.follow key source content (entry :: entries) renames) s result s'
  | followed {key source copy : Path} {content : Bytes} {entry : String} {entries : List String}
      {renames : SortedMap String} {s s₁ s' : Progress} {result : Except Error Path}
      (hfile : s.host.files.isFile s.host.directory (entryPath source entry) = true)
      (first : Runs staging (.copy (entryPath source entry)) s (.ok copy) s₁)
      (more : Runs staging (.follow key source content entries (renameTo renames entry copy)) s₁
        result s') :
      Runs staging (.follow key source content (entry :: entries) renames) s result s'
  | failed {key source : Path} {content : Bytes} {entry : String} {entries : List String}
      {renames : SortedMap String} {s s₁ : Progress} {e : Error}
      (hfile : s.host.files.isFile s.host.directory (entryPath source entry) = true)
      (first : Runs staging (.copy (entryPath source entry)) s (.error e) s₁) :
      Runs staging (.follow key source content (entry :: entries) renames) s (.error e) s₁
  | unwritable {key source : Path} {content : Bytes} {renames : SortedMap String} {s : Progress}
      {name : List Char} {e : IoError} {h : Host} (hname : source.fileName? = some name)
      (hwrite : writeAtomically s.host (staging.join ⟨name⟩) (copyContent content renames) =
        (.error e, h)) :
      Runs staging (.follow key source content [] renames) s
        (.error (.config (.unwritableCopy (staging.join ⟨name⟩) e)))
        (s.writing key source (copyContent content renames) h)
  | written {key source : Path} {content : Bytes} {renames : SortedMap String} {s : Progress}
      {name : List Char} {h : Host} (hname : source.fileName? = some name)
      (hwrite : writeAtomically s.host (staging.join ⟨name⟩) (copyContent content renames) =
        (.ok (), h)) :
      Runs staging (.follow key source content [] renames) s (.ok (staging.join ⟨name⟩))
        (s.writing key source (copyContent content renames) h)

/-- A whole staging: the directory is made, and the source is copied into it. -/
inductive Stages (h : Host) (source staging : Path) : Except Error Path → Progress → Prop
  | unmade {files : FileTree} {e : IoError}
      (hmade : h.files.makeDirectories h.directory staging = (files, .error e)) :
      Stages h source staging (.error (.config (.stagingDirectory staging e)))
        ⟨{ h with files := files }, [], []⟩
  | made {files : FileTree} {result : Except Error Path} {s : Progress}
      (hmade : h.files.makeDirectories h.directory staging = (files, .ok ()))
      (hruns : Runs staging (.copy source) ⟨{ h with files := files }, [], []⟩ result s) :
      Stages h source staging result s

variable {staging : Path} {task : Task} {s s' : Progress} {result : Except Error Path}

/-! ### Runs are functional -/

/-- **A run has one outcome.** -/
theorem Runs.unique (h : Runs staging task s result s') {result' : Except Error Path}
    {s'' : Progress} (h' : Runs staging task s result' s'') : result' = result ∧ s'' = s' := by
  induction h generalizing result' s'' with
  | nameless hname =>
      cases h' with
      | nameless => exact ⟨rfl, rfl⟩
      | met hname' | unreadable hname' | start hname' => cases hname.symm.trans hname'
  | met hname hmet =>
      cases h' with
      | nameless hname' => cases hname.symm.trans hname'
      | met hname' =>
          cases hname.symm.trans hname'
          exact ⟨rfl, rfl⟩
      | unreadable _ hfresh | start _ hfresh => cases hmet.symm.trans hfresh
  | unreadable hname hfresh hread =>
      cases h' with
      | nameless hname' => cases hname.symm.trans hname'
      | met _ hmet => cases hmet.symm.trans hfresh
      | unreadable _ _ hread' =>
          cases hread.symm.trans hread'
          exact ⟨rfl, rfl⟩
      | start _ _ hread' => cases hread.symm.trans hread'
  | start hname hfresh hread _ ih =>
      cases h' with
      | nameless hname' => cases hname.symm.trans hname'
      | met _ hmet => cases hmet.symm.trans hfresh
      | unreadable _ _ hread' => cases hread.symm.trans hread'
      | start _ _ hread' more =>
          cases hread.symm.trans hread'
          exact ih more
  | skipped hfile _ ih =>
      cases h' with
      | skipped _ more => exact ih more
      | followed hfile' | failed hfile' => cases hfile.symm.trans hfile'
  | followed hfile _ _ ihFirst ihMore =>
      cases h' with
      | skipped hfile' => cases hfile.symm.trans hfile'
      | followed _ first more =>
          obtain ⟨hcopy, rfl⟩ := ihFirst first
          cases hcopy
          exact ihMore more
      | failed _ first => cases (ihFirst first).1
  | failed hfile _ ih =>
      cases h' with
      | skipped hfile' => cases hfile.symm.trans hfile'
      | followed _ first => cases (ih first).1
      | failed _ first =>
          obtain ⟨he, rfl⟩ := ih first
          cases he
          exact ⟨rfl, rfl⟩
  | unwritable hname hwrite =>
      cases h' with
      | unwritable hname' hwrite' =>
          cases hname.symm.trans hname'
          cases hwrite.symm.trans hwrite'
          exact ⟨rfl, rfl⟩
      | written hname' hwrite' =>
          cases hname.symm.trans hname'
          cases hwrite.symm.trans hwrite'
  | written hname hwrite =>
      cases h' with
      | unwritable hname' hwrite' =>
          cases hname.symm.trans hname'
          cases hwrite.symm.trans hwrite'
      | written hname' hwrite' =>
          cases hname.symm.trans hname'
          cases hwrite.symm.trans hwrite'
          exact ⟨rfl, rfl⟩

/-! ### What is read and written -/

/-- The key of a source that is read. -/
def Event.readKey? : Event → Option Path
  | read key _ => some key
  | write .. => none

/-- The key of a source whose copy is written. -/
def Event.writeKey? : Event → Option Path
  | read .. => none
  | write key _ _ => some key

namespace Progress

/-- The keys of the sources that have been read, the last one first. -/
def readKeys (s : Progress) : List Path := s.log.filterMap Event.readKey?

/-- The keys of the sources whose copies have been written, the last one first. -/
def writeKeys (s : Progress) : List Path := s.log.filterMap Event.writeKey?

end Progress

/-- Whether no two of some paths have the same components. -/
def Distinct (paths : List Path) : Prop := (paths.map Path.components).Nodup

/-- The keys of sources that have been read and whose copies a task is still to write. -/
def Task.pending : Task → List Path
  | copy _ => []
  | follow key _ _ _ _ => [key]

theorem Progress.hasMet_eq_false {source : Path} :
    s.hasMet source = false ↔ (sourceKey s.host source).components ∉ s.met.map Path.components := by
  simp [hasMet, Path.same]

/-- **Copies are written of what is read, one of each.** What has been met is what has been read. -/
theorem Runs.exists_log (h : Runs staging task s result s') :
    ∃ new, s'.log = new ++ s.log ∧ s'.met = new.filterMap Event.readKey? ++ s.met ∧
      (new.filterMap Event.writeKey?).Subperm (task.pending ++ new.filterMap Event.readKey?) := by
  induction h with
  | nameless | met => exact ⟨[], rfl, rfl, List.nil_subperm⟩
  | @unreadable source s => exact ⟨[.read (sourceKey s.host source) source], rfl, rfl, List.nil_subperm⟩
  | @start source s _ _ _ _ _ _ _ _ ih =>
      obtain ⟨new, hlog, hmet, hwrites⟩ := ih
      refine ⟨new ++ [.read (sourceKey s.host source) source], ?_, ?_, ?_⟩
      · rw [hlog, List.append_assoc]
        rfl
      · rw [hmet, List.filterMap_append, List.append_assoc]
        rfl
      · have hcomm : List.Perm ([sourceKey s.host source] ++ new.filterMap Event.readKey?)
            (new.filterMap Event.readKey? ++ [sourceKey s.host source]) := List.perm_append_comm
        rw [List.filterMap_append, List.filterMap_append]
        exact (List.append_nil _).symm ▸ hwrites.trans hcomm.subperm
  | skipped _ _ ih => exact ih
  | followed _ _ _ ihFirst ihMore =>
      obtain ⟨new₁, hlog₁, hmet₁, hwrites₁⟩ := ihFirst
      obtain ⟨new₂, hlog₂, hmet₂, hwrites₂⟩ := ihMore
      refine ⟨new₂ ++ new₁, ?_, ?_, ?_⟩
      · rw [hlog₂, hlog₁, List.append_assoc]
      · rw [hmet₂, hmet₁, List.filterMap_append, List.append_assoc]
      · rw [List.filterMap_append, List.filterMap_append, ← List.append_assoc]
        exact hwrites₂.append hwrites₁
  | failed _ _ ih =>
      obtain ⟨new, hlog, hmet, hwrites⟩ := ih
      exact ⟨new, hlog, hmet, hwrites.trans (List.sublist_append_right _ _).subperm⟩
  | @unwritable key source content _ _ _ _ _ _ _ | @written key source content _ _ _ _ _ _ =>
      exact ⟨[.write key source _], rfl, rfl, List.Subperm.refl [key]⟩

theorem Runs.met_subset (hruns : Runs staging task s result s') : s.met ⊆ s'.met := by
  obtain ⟨new, -, hmet, -⟩ := hruns.exists_log
  rw [hmet]
  exact List.subset_append_right _ _

theorem Runs.log_subset (hruns : Runs staging task s result s') : s.log ⊆ s'.log := by
  obtain ⟨new, hlog, -⟩ := hruns.exists_log
  rw [hlog]
  exact List.subset_append_right _ _

/-- If a run succeeds, copies have been written of all that it has read, and of what its task is
about. -/
theorem Runs.exists_write {copy : Path} (h : Runs staging task s result s')
    (hresult : result = .ok copy) :
    (∀ key p, .read key p ∈ s'.log → .read key p ∈ s.log ∨ ∃ content, .write key p content ∈ s'.log) ∧
      ∀ key p content entries renames, task = .follow key p content entries renames →
        ∃ content', .write key p content' ∈ s'.log := by
  induction h generalizing copy with
  | nameless | unreadable | failed | unwritable => cases hresult
  | met => exact ⟨fun _ _ hread => .inl hread, fun _ _ _ _ _ htask => by cases htask⟩
  | start _ _ _ _ ih =>
      obtain ⟨hreads, hfollow⟩ := ih hresult
      refine ⟨fun key p hread => ?_, fun _ _ _ _ _ htask => by cases htask⟩
      rcases hreads key p hread with hread | hwrite
      · rcases List.mem_cons.1 hread with hnew | hread
        · cases hnew
          exact .inr (hfollow _ _ _ _ _ rfl)
        · exact .inl hread
      · exact .inr hwrite
  | skipped _ _ ih =>
      obtain ⟨hreads, hfollow⟩ := ih hresult
      refine ⟨hreads, fun _ _ _ _ _ htask => ?_⟩
      cases htask
      exact hfollow _ _ _ _ _ rfl
  | followed _ _ more ihFirst ihMore =>
      obtain ⟨hreads, hfollow⟩ := ihMore hresult
      refine ⟨fun key p hread => ?_, fun _ _ _ _ _ htask => ?_⟩
      · rcases hreads key p hread with hread | hwrite
        · rcases (ihFirst rfl).1 key p hread with hread | ⟨content, hwrite⟩
          · exact .inl hread
          · exact .inr ⟨content, more.log_subset hwrite⟩
        · exact .inr hwrite
      · cases htask
        exact hfollow _ _ _ _ _ rfl
  | @written key source =>
      refine ⟨fun key p hread => ?_, fun _ _ _ _ _ htask => ?_⟩
      · rcases List.mem_cons.1 hread with hwritten | hread
        · cases hwritten
        · exact .inl hread
      · cases htask
        exact ⟨_, List.mem_cons_self⟩

/-- **Nothing is read twice.** -/
theorem Runs.distinct_met (h : Runs staging task s result s') (hs : Distinct s.met) :
    Distinct s'.met := by
  induction h with
  | nameless | met => exact hs
  | unreadable _ hfresh => exact List.nodup_cons.2 ⟨Progress.hasMet_eq_false.1 hfresh, hs⟩
  | start _ hfresh _ _ ih => exact ih (List.nodup_cons.2 ⟨Progress.hasMet_eq_false.1 hfresh, hs⟩)
  | skipped _ _ ih => exact ih hs
  | followed _ _ _ ihFirst ihMore => exact ihMore (ihFirst hs)
  | failed _ _ ih => exact ih hs
  | unwritable | written => exact hs

/-! ### Stagings -/

variable {h : Host} {source : Path}

theorem Stages.unique (hs : Stages h source staging result s) {result' : Except Error Path}
    (hs' : Stages h source staging result' s') : result' = result ∧ s' = s := by
  cases hs with
  | unmade hmade =>
      cases hs' with
      | unmade hmade' =>
          cases hmade.symm.trans hmade'
          exact ⟨rfl, rfl⟩
      | made hmade' => cases hmade.symm.trans hmade'
  | made hmade hruns =>
      cases hs' with
      | unmade hmade' => cases hmade.symm.trans hmade'
      | made hmade' hruns' =>
          cases hmade.symm.trans hmade'
          exact hruns.unique hruns'

/-- What a staging reads and writes. -/
theorem Stages.distinct_readKeys (hs : Stages h source staging result s) :
    Distinct s.readKeys ∧ s.writeKeys.Subperm s.readKeys := by
  cases hs with
  | unmade => exact ⟨List.nodup_nil, List.nil_subperm⟩
  | made _ hruns =>
      obtain ⟨new, hlog, hmet, hwrites⟩ := hruns.exists_log
      have hdistinct : Distinct s.met := hruns.distinct_met List.nodup_nil
      rw [List.append_nil] at hlog hmet
      rw [Progress.readKeys, Progress.writeKeys, hlog, ← hmet]
      exact ⟨hdistinct, hmet ▸ hwrites⟩

end StandardsGate.Staging
