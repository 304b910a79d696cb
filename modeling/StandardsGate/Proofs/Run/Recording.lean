import StandardsGate.Proofs.Event.Appending
import StandardsGate.Proofs.Host.Walking
import StandardsGate.Proofs.Run.Composition
import StandardsGate.Proofs.Run.Lockstep

/-!
What the log tells of a run.

Events are added to the log one by one, and nothing is taken out of it. So the log holds what it has
held before a run, and then the events of the run in order, up to where the run has come: that it
began, which hunks could not be read, what the checkers have answered, and how it ended. The
checkers work on the same files. This is why they have to leave the file of the log alone.

Main definitions:

* `EventLog.Holds` — what a log holds, with the events of some records at its end;
* `EventLog.LeftAlone` — whether the checkers of a run leave the file of a log as it is;
* `EventLog.Unseen` — hosts with and without a log between which checkers do not tell.

Main results:

* `EventLog.holds_of_run_record` — **a record is added to the log**;
* `EventLog.ends_of_inquiry` — what the log holds when questions have been asked;
* `events_of_checkDiff` — **the log tells the run**.
-/

namespace StandardsGate

open Running

/-! ### Records at the end of a log -/

/-- The records of how a run begins. -/
def openingRecords (config : Config) (d : Diff) : List Record :=
  startRecord config d :: d.malformed.map malformedRecord

namespace EventLog

open FileTree

/-- Whether the file of a log holds a text, and behind it the events of records. -/
def Holds (file : Path) (l : Location) (before : Bytes) (rs : List Record) (h : Host) : Prop :=
  ∃ events runnable, List.Forall₂ Event.Tells events rs ∧
    h.files.find h.directory file =
      .ok (l, .file (before ++ events.flatMap Event.lineBytes) runnable)

/-- Whether the checkers of a run leave the file of a log as it is, each where the run asks it. -/
def LeftAlone (file : Path) (config : Config) (d : Diff) (qs : List (Question Host)) (h : Host) :
    Prop :=
  ∀ front q back rs h₁ result h₂, qs = front ++ q :: back →
    (inquiry (recorder ⟨some file⟩) config d front).run.run h = (.ok rs, h₁) →
    (q.checker.checkFiles q.files).run.run h₁ = (result, h₂) →
    h₂.files.find h₂.directory file = h₁.files.find h₁.directory file

/-- Whether a relation between hosts with a log and hosts without one is kept by a run: the log is
there, to record something makes no difference, and checkers give the same answers. -/
structure Unseen (file : Path) (qs : List (Question Host)) (alike : Host → Host → Prop) : Prop where
  there : ∀ a b, alike a b → a.files.isFile a.directory file = true
  record : ∀ a b r a', alike a b → ((recorder ⟨some file⟩).record r).run.run a = (.ok (), a') →
    alike a' b
  check : ∀ q ∈ qs, Action.InStep alike (q.checker.checkFiles q.files) (q.checker.checkFiles q.files)

variable {file : Path} {l : Location} {before : Bytes} {records : List Record} {h h' : Host}

theorem holds_of_find {runnable : Bool}
    (hfind : h.files.find h.directory file = .ok (l, .file before runnable)) :
    Holds file l before [] h :=
  ⟨[], runnable, .nil, by rw [hfind, List.flatMap_nil, List.append_nil]⟩

theorem Holds.isFile (hholds : Holds file l before records h) :
    h.files.isFile h.directory file = true := by
  obtain ⟨events, runnable, -, hfind⟩ := hholds
  exact isFile_of_find hfind

theorem Holds.of_find (hholds : Holds file l before records h)
    (hfind : h'.files.find h'.directory file = h.files.find h.directory file) :
    Holds file l before records h' := by
  obtain ⟨events, runnable, hevents, hfound⟩ := hholds
  exact ⟨events, runnable, hevents, hfind.trans hfound⟩

/-- **A record is added to the log.** -/
theorem holds_of_run_record (hnamed : (directoryPart file).2 = true)
    (hholds : Holds file l before records h) (r : Record) :
    ∃ h', ((recorder ⟨some file⟩).record r).run.run h = (.ok (), h') ∧
      Holds file l before (records ++ [r]) h' := by
  obtain ⟨events, runnable, hevents, hfind⟩ := hholds
  refine ⟨_, run_record_of_find hnamed hfind r, events ++ [h.event r], runnable,
    List.rel_append hevents (.cons (h.tells_event r) .nil), ?_⟩
  rw [List.flatMap_append, List.flatMap_singleton, ← List.append_assoc]
  exact find_put_file hfind _ _

theorem holds_of_forM (hnamed : (directoryPart file).2 = true)
    (hholds : Holds file l before records h) (ms : List MalformedHunk) :
    ∃ h', (ms.forM fun m => (recorder ⟨some file⟩).record (malformedRecord m)).run.run h =
        (.ok (), h') ∧
      Holds file l before (records ++ ms.map malformedRecord) h' := by
  induction ms generalizing h records with
  | nil => exact ⟨h, rfl, by simpa using hholds⟩
  | cons m ms ih =>
      obtain ⟨h₁, hrecord, hholds₁⟩ := holds_of_run_record hnamed hholds (malformedRecord m)
      obtain ⟨h', hrest, hholds'⟩ := ih hholds₁
      refine ⟨h', (Action.run_bind_of_ok hrecord _).trans hrest, ?_⟩
      rwa [List.append_assoc] at hholds'

/-- What a log holds when questions are asked one after the other: the answers are recorded up to the
first checker that fails. -/
theorem ends_of_mapM (hnamed : (directoryPart file).2 = true)
    (hholds : Holds file l before records h) (qs : List (Question Host))
    (halone : ∀ front q back rs h₁ result h₂, qs = front ++ q :: back →
      (front.mapM (Question.pose (recorder ⟨some file⟩))).run.run h = (.ok rs, h₁) →
      (q.checker.checkFiles q.files).run.run h₁ = (result, h₂) →
      h₂.files.find h₂.directory file = h₁.files.find h₁.directory file) :
    (∃ rs h', (qs.mapM (Question.pose (recorder ⟨some file⟩))).run.run h = (.ok rs, h') ∧
      Holds file l before (records ++ rs.map Reply.record) h') ∨
    ∃ e h' front q back rs h₁,
      (qs.mapM (Question.pose (recorder ⟨some file⟩))).run.run h = (.error e, h') ∧
      qs = front ++ q :: back ∧
      (front.mapM (Question.pose (recorder ⟨some file⟩))).run.run h = (.ok rs, h₁) ∧
      (q.checker.checkFiles q.files).run.run h₁ = (.error e, h') ∧
      Holds file l before (records ++ rs.map Reply.record) h' := by
  induction qs generalizing h records with
  | nil => exact .inl ⟨[], h, rfl, by simpa using hholds⟩
  | cons q qs ih =>
      rcases hasked : (q.checker.checkFiles q.files).run.run h with ⟨e | messages, h₁⟩
      · have hfind := halone [] q qs [] h _ h₁ rfl rfl hasked
        refine .inr ⟨e, h₁, [], q, qs, [], h, ?_, rfl, rfl, hasked,
          by simpa using hholds.of_find hfind⟩
        rw [List.mapM_cons, Action.run_bind_of_error (q.run_pose_of_error hasked)]
      · have hfind := halone [] q qs [] h _ h₁ rfl rfl hasked
        obtain ⟨reply, -, -, hpose⟩ := q.run_pose_of_ok (recorder ⟨some file⟩) hasked
        obtain ⟨h₂, hrecord, hholds₂⟩ :=
          holds_of_run_record hnamed (hholds.of_find hfind) reply.record
        rw [Action.run_bind_of_ok hrecord] at hpose
        have hrest : ∀ rs, records ++ [reply.record] ++ rs.map Reply.record =
            records ++ (reply :: rs).map Reply.record := by simp
        rcases ih hholds₂ fun front q' back rs h₃ result h₄ hsplit hfront =>
            halone (q :: front) q' back (reply :: rs) h₃ result h₄ (by rw [hsplit]; rfl)
              (Action.run_mapM_cons hpose hfront) with
          ⟨rs, h', hqs, hholds'⟩ |
          ⟨e, h', front, q', back, rs, h₃, hqs, hsplit, hfront, hasked', hholds'⟩
        · exact .inl ⟨reply :: rs, h', Action.run_mapM_cons hpose hqs, hrest rs ▸ hholds'⟩
        · exact .inr ⟨e, h', q :: front, q', back, reply :: rs, h₃,
            Action.run_mapM_cons hpose hqs, by rw [hsplit]; rfl,
            Action.run_mapM_cons hpose hfront, hasked', hrest rs ▸ hholds'⟩

/-- **What the log holds when questions have been asked**: it tells how the run began, and the answers
up to the first checker that fails. -/
theorem ends_of_inquiry {config : Config} {d : Diff} {qs : List (Question Host)} {h₀ : Host}
    (hnamed : (directoryPart file).2 = true)
    (hstart : ((recorder ⟨some file⟩).record (startRecord config d)).run.run h = (.ok (), h₀))
    (hholds : Holds file l before [startRecord config d] h₀)
    (halone : LeftAlone file config d qs h) :
    (∃ rs h', (inquiry (recorder ⟨some file⟩) config d qs).run.run h = (.ok rs, h') ∧
      Holds file l before (openingRecords config d ++ rs.map Reply.record) h') ∨
    ∃ e h' front q back rs h₁,
      (inquiry (recorder ⟨some file⟩) config d qs).run.run h = (.error e, h') ∧
      qs = front ++ q :: back ∧
      (inquiry (recorder ⟨some file⟩) config d front).run.run h = (.ok rs, h₁) ∧
      (q.checker.checkFiles q.files).run.run h₁ = (.error e, h') ∧
      Holds file l before (openingRecords config d ++ rs.map Reply.record) h' := by
  obtain ⟨h₁, hmalformed, hholds₁⟩ := holds_of_forM hnamed hholds d.malformed
  have hinquiry : ∀ qs : List (Question Host),
      (inquiry (recorder ⟨some file⟩) config d qs).run.run h =
        (qs.mapM (Question.pose (recorder ⟨some file⟩))).run.run h₁ := fun qs =>
    (Action.run_bind_of_ok hstart _).trans (Action.run_bind_of_ok hmalformed _)
  unfold LeftAlone at halone
  simp only [hinquiry] at halone ⊢
  exact ends_of_mapM hnamed hholds₁ qs halone

/-! ### Checkers that only answer -/

section

variable {qs : List (Question Host)}
  (hpure : ∀ q ∈ qs, ∃ messages, q.checker.checkFiles q.files = pure messages)
include hpure

theorem leftAlone_of_pure (config : Config) (d : Diff) (h : Host) :
    LeftAlone file config d qs h := by
  rintro front q back rs h₁ result h₂ rfl - hasked
  obtain ⟨messages, hanswer⟩ := hpure q (by simp)
  rw [hanswer] at hasked
  cases hasked
  rfl

/-- Checkers that only answer do not see whether there is a log. -/
theorem unseen_of_pure (hnamed : (directoryPart file).2 = true) :
    Unseen file qs fun a _ => a.files.isFile a.directory file = true where
  there _ _ h := h
  record a _ r a' h hrecord := by
    obtain ⟨x, content, runnable, hfind⟩ := exists_find_of_isFile h
    rw [run_record_of_find hnamed hfind] at hrecord
    cases hrecord
    exact isFile_of_find (find_put_file hfind _ _)
  check q hq := by
    obtain ⟨messages, hanswer⟩ := hpure q hq
    rw [hanswer]
    exact fun a b h => ⟨rfl, h⟩

end

end EventLog

/-! ### Runs -/

/-- **Without a log** a run comes to the same result and prints the same lines, as long as checkers
cannot tell the difference. -/
theorem silent_of_unseen {file : Path} {config : Config}
    {built : List (String × List (Checker Host))} {d : Diff} {h h₀ : Host}
    {alike : Host → Host → Prop} (hnamed : (FileTree.directoryPart file).2 = true)
    (hstart : ((EventLog.recorder ⟨some file⟩).record (startRecord config d)).run.run h =
      (.ok (), h₀))
    (hunseen : EventLog.Unseen file (config.questions built d.files.toList) alike)
    (halike : alike h₀ h) :
    let run := (checkDiff (EventLog.recorder ⟨some file⟩) config built d).run.run ⟨h, []⟩
    let silent := (checkDiff (EventLog.recorder ⟨none⟩) config built d).run.run ⟨h, []⟩
    silent.1 = run.1 ∧ silent.2.console = run.2.console := by
  have hrec : ∀ r r', Action.InStep alike ((EventLog.recorder ⟨some file⟩).record r)
      ((EventLog.recorder ⟨none⟩).record r') := by
    intro r r' a b hab
    obtain ⟨x, content, runnable, hfound⟩ := FileTree.exists_find_of_isFile (hunseen.there a b hab)
    have hrecorded := EventLog.run_record_of_find hnamed hfound r
    rw [hrecorded]
    exact ⟨rfl, hunseen.record a b r _ hab hrecorded⟩
  obtain ⟨result, w, w', console, -, hrun, hsilent⟩ := inStep_checkDiff hrec config built d
    hunseen.check halike hstart rfl []
  simp only [hrun, hsilent, and_self]

/-- **The log tells the run.** If the beginning of a run can be recorded, and the checkers leave the
file of the log alone, it keeps what it has held before. A run that comes to a verdict adds its
beginning, the hunks that could not be read, one record for each question in order, and its end, with
the totals of these records. A run that fails at a question adds what was recorded before it, and
nothing of its end. Without a log, a run comes to the same result and prints the same lines, as long
as the checkers cannot tell the difference. -/
theorem events_of_checkDiff {file : Path} {config : Config}
    {built : List (String × List (Checker Host))} {d : Diff} {h h₀ : Host}
    (hstart : ((EventLog.recorder ⟨some file⟩).record (startRecord config d)).run.run h =
      (.ok (), h₀))
    (hthere : h₀.files.isFile h₀.directory file = true)
    (halone : EventLog.LeftAlone file config d (config.questions built d.files.toList) h) :
    let log := EventLog.recorder ⟨some file⟩
    let questions := config.questions built d.files.toList
    let run := (checkDiff log config built d).run.run ⟨h, []⟩
    let silent := (checkDiff (EventLog.recorder ⟨none⟩) config built d).run.run ⟨h, []⟩
    (∃ l, (∀ before, h.files.read h.directory file = .ok before → h.files.contentAt l = before) ∧
      match run.1 with
      | .ok s => ∃ rs h₁,
        (inquiry log config d questions).run.run h = (.ok rs, h₁) ∧
        rs.map Reply.question = questions ∧
        EventLog.Holds file l (h.files.contentAt l)
          (openingRecords config d ++ rs.map Reply.record ++ [finishRecord s]) run.2.world ∧
        s.violations = (rs.flatMap Reply.messages).length ∧ s.malformed = d.malformed.length ∧
        (s.verdict = .rejected ↔ 0 < s.violations)
      | .error e =>
        (∃ cause, Assignment.ofConfig config = .error cause ∧ e = .config cause ∧
          EventLog.Holds file l (h.files.contentAt l) (openingRecords config d) run.2.world) ∨
        ∃ front q back rs h₁, questions = front ++ q :: back ∧
          (inquiry log config d front).run.run h = (.ok rs, h₁) ∧
          rs.map Reply.question = front ∧
          (q.checker.checkFiles q.files).run.run h₁ = (.error e, run.2.world) ∧
          EventLog.Holds file l (h.files.contentAt l)
            (openingRecords config d ++ rs.map Reply.record) run.2.world) ∧
    ∀ alike, EventLog.Unseen file questions alike → alike h₀ h →
      silent.1 = run.1 ∧ silent.2.console = run.2.console := by
  intro log questions run silent
  obtain ⟨hnamed, l, runnable, hfind, hbefore⟩ := EventLog.find_of_run_record hstart hthere
  refine ⟨⟨l, hbefore, ?_⟩, fun alike => silent_of_unseen hnamed hstart⟩
  have hholds : EventLog.Holds file l (h.files.contentAt l) [startRecord config d] h₀ :=
    ⟨[h.event (startRecord config d)], runnable, .cons (h.tells_event _) .nil, by simpa using hfind⟩
  have hasked := EventLog.ends_of_inquiry hnamed hstart hholds halone
  have hends : RunEnds log config built d ⟨h, []⟩ run :=
    runEnds_checkDiff log config built d ⟨h, []⟩
  clear_value run
  -- how the run ends says how far its inquiry has come, and so what was recorded
  cases hends with
  | unopened hfailed => cases hfailed.symm.trans hstart
  | @unassigned cause w lines hrules hinquiry hlines =>
      have hnone : EventLog.LeftAlone file config d [] h := by
        intro front q back rs h₁ result h₂ hsplit
        cases front <;> cases hsplit
      rcases EventLog.ends_of_inquiry hnamed hstart hholds hnone with
        ⟨rs, h', hrs, hholds'⟩ | ⟨-, -, front, q, back, -, -, -, hsplit, -⟩
      · cases hrs.symm.trans hinquiry
        exact .inl ⟨cause, hrules, rfl, by simpa using hholds'⟩
      · cases front <;> cases hsplit
  | failed hfirst hinquiry hlines =>
      rcases hasked with ⟨rs, h', hrs, -⟩ |
        ⟨e, h', front, q, back, rs, h₁, hfailed, hsplit, hfront, hq, hholds'⟩
      · cases hrs.symm.trans hinquiry
      · cases hfailed.symm.trans hinquiry
        exact .inr ⟨front, q, back, rs, h₁, hsplit, hfront, map_question_of_inquiry hfront, hq,
          hholds'⟩
  | unfinished hinquiry hlines hfinish =>
      rcases hasked with ⟨rs, h', hrs, hholds'⟩ | ⟨e, h', front, q, back, rs, h₁, hfailed, -⟩
      · cases hrs.symm.trans hinquiry
        -- the log is still there, so the end of the run can be recorded
        obtain ⟨h'', hrecorded, -⟩ := EventLog.holds_of_run_record hnamed hholds' (finishRecord _)
        cases hfinish.symm.trans hrecorded
      · cases hfailed.symm.trans hinquiry
  | @finished w w' lines rs hinquiry hlines hfinish =>
      rcases hasked with ⟨rs', h', hrs, hholds'⟩ | ⟨e, h', front, q, back, rs', h₁, hfailed, -⟩
      · cases hinquiry.symm.trans hrs
        obtain ⟨h'', hrecorded, hholds''⟩ :=
          EventLog.holds_of_run_record hnamed hholds' (finishRecord _)
        cases hrecorded.symm.trans hfinish
        refine ⟨rs, w, hrs, map_question_of_inquiry hrs, hholds'',
          config.violations_summary built d rs, rfl, ?_⟩
        rw [config.verdict_summary_eq_rejected_iff, config.violations_summary, List.length_pos_iff]
        simp
      · cases hfailed.symm.trans hinquiry

/-! ### A log that holds something -/

/-- The checkers for forbidden words only answer. -/
theorem Config.exists_pure_of_onlyPatterns {config : Config} {c : RunContext} {h h' : Host}
    {built : List (String × List (Checker Host))}
    (hbuilt : (Registry.builtin.instantiate config c).run.run h = (.ok built, h'))
    (hpatterns : config.OnlyPatterns) (files : List EditedFile) :
    ∀ q ∈ config.questions built files, ∃ messages, q.checker.checkFiles q.files = pure messages := by
  intro q hq
  obtain ⟨remark, hremark⟩ := exists_remark_of_onlyPatterns hbuilt hpatterns
  exact ⟨_, hremark q.standard q.checker (of_mem_questions hq).1 q.files⟩

def keptBytes : Bytes := Utf8.encode "kept\n"

def keptLog : Location := ["log".toList]

/-- A host with a log that holds something. -/
def keptHost : Host := { wordsHost with files := FileTree.empty.put keptLog (.file keptBytes false) }

/-- A checker that empties the file of the log. -/
def wipingChecker : Checker Host where
  settings := default
  defaultExtensions := ["js"]
  inspect _ := do
    modify fun h => { h with files := h.files.put keptLog (.file [] false) }
    return []

/-- A run with a log that asks this checker about a file. -/
def wipedRun : Except Error RunSummary × Running Host :=
  (checkDiff (EventLog.recorder ⟨some keptLog.path⟩) wordsConfig [("main", [wipingChecker])]
    ⟨(∅ : EditedFiles).pushAll [.new "a.js"], []⟩).run.run ⟨keptHost, []⟩

theorem kept_evaluated :
    (keptHost.files.Reaches keptLog ∧ keptHost.files.get? keptLog = some (.file keptBytes false)) ∧
      (wordsConfig.questions wordsCheckers wordsDiffs.1.files.toList).length = 1 ∧
      wordsDiffs.1.malformed.length = 0 ∧
      (keptHost.files.read keptHost.directory keptLog.path).toOption = some keptBytes ∧
      wipedRun.1.isOk = true ∧
      ((wipedRun.2.world.files.read wipedRun.2.world.directory keptLog.path).toOption.bind
        List.head?) ≠ keptBytes.head? := by
  decide +kernel

/-- A word is found in a file, and three events are added to the log: the run began, a checker has
finished, and the run has finished. -/
theorem events_of_checkDiff_words :
    let run := (checkDiff (EventLog.recorder ⟨some keptLog.path⟩) wordsConfig wordsCheckers
      wordsDiffs.1).run.run ⟨keptHost, []⟩
    let silent := (checkDiff (EventLog.recorder ⟨none⟩) wordsConfig wordsCheckers
      wordsDiffs.1).run.run ⟨keptHost, []⟩
    (∃ s, ∃ reply : Reply Host, ∃ l, run.1 = .ok s ∧
      EventLog.Holds keptLog.path l keptBytes
        [startRecord wordsConfig wordsDiffs.1, reply.record, finishRecord s] run.2.world) ∧
    silent.1 = run.1 ∧ silent.2.console = run.2.console := by
  obtain ⟨⟨hreaches, hfile⟩, hone, hclean, hread, -⟩ := kept_evaluated
  obtain ⟨-, -, hpatterns, -⟩ := words_evaluated
  have hpure := Config.exists_pure_of_onlyPatterns instantiate_words hpatterns
    wordsDiffs.1.files.toList
  have hnamed := FileTree.directoryPart_path hreaches.1
  have hfind : keptHost.files.find keptHost.directory keptLog.path =
      .ok (keptLog, .file keptBytes false) := FileTree.find_path hreaches _ hfile rfl
  obtain ⟨a, hrules, -⟩ := Assignment.exists_ofConfig (Config.compiles_of_ofYaml ofYaml_words)
  -- nothing of what follows is computed
  generalize wordsConfig = config, wordsCheckers = built, wordsDiffs.1 = d, keptHost = h,
    keptLog = l, keptBytes = bytes at hone hclean hread hpure hnamed hfind hrules ⊢
  intro run silent
  obtain ⟨h₀, hstart, hholds₀⟩ := EventLog.holds_of_run_record hnamed
    (EventLog.holds_of_find hfind) (startRecord config d)
  obtain ⟨⟨l', hbefore, hends⟩, hsilent⟩ := events_of_checkDiff hstart hholds₀.isFile
    (EventLog.leftAlone_of_pure hpure config d h)
  rw [hbefore _ (eq_ok_of_toOption hread)] at hends
  refine ⟨?_, hsilent _ (EventLog.unseen_of_pure hpure hnamed) hholds₀.isFile⟩
  rcases hresult : run.1 with e | s
  · rw [hresult] at hends
    rcases hends with ⟨cause, hfailed, -⟩ | ⟨front, q, back, rs, h₁, hsplit, -, -, hfailed, -⟩
    · cases hrules.symm.trans hfailed
    · obtain ⟨messages, hanswer⟩ := hpure q (by rw [hsplit]; simp)
      rw [hanswer] at hfailed
      cases hfailed
  · rw [hresult] at hends
    obtain ⟨rs, h₁, -, hquestions, hholds, -⟩ := hends
    obtain ⟨reply, rfl⟩ : ∃ reply, rs = [reply] := by
      rw [← hquestions, List.length_map] at hone
      exact List.length_eq_one_iff.1 hone
    rw [openingRecords, List.eq_nil_of_length_eq_zero hclean] at hholds
    exact ⟨s, reply, l', rfl, hholds⟩

/-- A checker has emptied the log: what it held is lost, although all events were recorded. -/
theorem events_of_checkDiff_wiped :
    keptHost.files.read keptHost.directory keptLog.path = .ok keptBytes ∧
      wipedRun.1.isOk = true ∧
      ∀ bytes, wipedRun.2.world.files.read wipedRun.2.world.directory keptLog.path = .ok bytes →
        ¬ keptBytes <+: bytes := by
  obtain ⟨-, -, -, hread, hrun, hwiped⟩ := kept_evaluated
  have hkept : keptBytes ≠ [] := by decide
  generalize wipedRun = ending at hrun hwiped ⊢
  refine ⟨eq_ok_of_toOption hread, hrun, ?_⟩
  rintro bytes hbytes ⟨rest, rfl⟩
  have hhead : (keptBytes ++ rest).head? = keptBytes.head? := List.head?_append_of_ne_nil _ hkept
  rw [hbytes] at hwiped
  exact hwiped hhead

end StandardsGate
