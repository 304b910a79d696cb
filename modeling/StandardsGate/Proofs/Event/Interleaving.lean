import StandardsGate.Proofs.Event.Lines
import Mathlib.Data.List.Count
import Mathlib.Data.List.Perm.Lattice

/-!
A log that many processes write to.

An event is added to a log with two write calls, one for its text and one for the line feed behind
it. Each call adds what it writes in one piece, but calls of other processes may come between the
two. Whatever the order of the calls, nothing is lost and the file holds all that was written, one
call behind the other. Its lines are the events that were recorded exactly if no call has come
between a text and its line feed: there are as many line feeds as texts, so that a line with two
texts leaves a line with none.

Main definitions:

* `EventLog.Call`, `EventLog.calls` — the write calls for an event, and for many;
* `EventLog.IsSchedule` — the calls of all processes in an order that keeps that of each;
* `EventLog.runCalls` — what the calls come to on a file tree that the processes share;
* `EventLog.Unbroken` — schedules that never part a text from its line feed;
* `EventLog.Intact` — whether the new lines of a log are the events that were recorded.

Main results:

* `EventLog.run_appendEvent_eq_runCalls` — an event is added with its two calls;
* `EventLog.runCalls_of_find` — **every schedule adds what it writes**, whole and in its order;
* `EventLog.intact_iff_unbroken` — **when a log stays intact**;
* `EventLog.lines_of_runCalls` — **which lines a log has after a schedule**.
-/

namespace StandardsGate.EventLog

open FileTree

/-! ### Write calls -/

/-- A write call with which an event is added to a log: for its text, or for the line feed. -/
inductive Call
  | text (e : Event)
  | feed

/-- What a call writes. -/
def Call.bytes : Call → Bytes
  | text e => Utf8.encode e.line
  | feed => [10]

/-- Whether a call is for a text. -/
def Call.isText : Call → Bool
  | text _ => true
  | feed => false

/-- Whether a call is for a line feed. -/
def Call.isFeed : Call → Bool
  | text _ => false
  | feed => true

@[simp] theorem countP_isText_text (e : Event) (cs : List Call) :
    (.text e :: cs).countP Call.isText = cs.countP Call.isText + 1 :=
  List.countP_cons_of_pos rfl

@[simp] theorem countP_isText_feed (cs : List Call) :
    (.feed :: cs).countP Call.isText = cs.countP Call.isText :=
  List.countP_cons_of_neg Bool.false_ne_true

@[simp] theorem countP_isFeed_text (e : Event) (cs : List Call) :
    (.text e :: cs).countP Call.isFeed = cs.countP Call.isFeed :=
  List.countP_cons_of_neg Bool.false_ne_true

@[simp] theorem countP_isFeed_feed (cs : List Call) :
    (.feed :: cs).countP Call.isFeed = cs.countP Call.isFeed + 1 :=
  List.countP_cons_of_pos rfl

/-- The calls for events one after the other. -/
def calls (es : List Event) : List Call := es.flatMap fun e => [.text e, .feed]

theorem calls_cons (e : Event) (es : List Event) : calls (e :: es) = .text e :: .feed :: calls es :=
  rfl

theorem encode_line_ne_nil (e : Event) : Utf8.encode e.line ≠ [] := by
  rw [Event.line, Json.compact, Utf8.encode, String.toList_ofList, Json.compactChars,
    List.flatMap_cons]
  exact List.append_ne_nil_of_left_ne_nil (by decide) _

/-- There is a line feed for each text. -/
theorem countP_calls (es : List Event) :
    (calls es).countP Call.isFeed = (calls es).countP Call.isText := by
  induction es with
  | nil => rfl
  | cons e es ih =>
      simp [calls_cons, ih]

theorem calls_injective : Function.Injective calls := by
  intro es es' h
  induction es generalizing es' with
  | nil =>
      cases es' with
      | nil => rfl
      | cons e' es' => cases h
  | cons e es ih =>
      cases es' with
      | nil => cases h
      | cons e' es' =>
          rw [calls_cons, calls_cons] at h
          obtain ⟨htext, hrest⟩ := List.cons.inj h
          rw [Call.text.inj htext, ih (List.cons.inj hrest).2]

/-! ### Calls on a file -/

variable {ι : Type}

section Calls

variable {cwd : ι → Location} {path : ι → Path} {t : FileTree} {l : Location} {runnable : Bool}
  {before : Bytes}

/-- What the calls of a schedule come to on a file tree, each process adding to what its own path
leads to from its own working directory. -/
def runCalls (cwd : ι → Location) (path : ι → Path) (t : FileTree) (s : List (ι × Call)) :
    Except IoError FileTree :=
  s.foldlM (fun t c => t.append (cwd c.1) (path c.1) c.2.bytes) t

/-- Whether the path of each process leads to the file of a log, which holds something. -/
def Share (cwd : ι → Location) (path : ι → Path) (l : Location) (runnable : Bool) (t : FileTree)
    (content : Bytes) : Prop :=
  ∀ i, (directoryPart (path i)).2 = true ∧
    t.find (cwd i) (path i) = .ok (l, .file content runnable)

/-- A call adds what it writes, and all paths lead to the file still. -/
theorem Share.append (h : Share cwd path l runnable t before) (i : ι) (content : Bytes) :
    ∃ t', t.append (cwd i) (path i) content = .ok t' ∧
      Share cwd path l runnable t' (before ++ content) :=
  ⟨_, append_of_find (h i).1 (h i).2 content,
    fun j => ⟨(h j).1, find_put_file (h j).2 (before ++ content) runnable⟩⟩

/-- **Every schedule adds what it writes**, whole and in its order. -/
theorem runCalls_of_find (h : Share cwd path l runnable t before) (s : List (ι × Call)) :
    ∃ t', runCalls cwd path t s = .ok t' ∧
      Share cwd path l runnable t' (before ++ s.flatMap fun c => c.2.bytes) := by
  induction s generalizing t before with
  | nil => exact ⟨t, rfl, by rwa [List.flatMap_nil, List.append_nil]⟩
  | cons c s ih =>
      obtain ⟨t₁, happend, hshare⟩ := h.append c.1 c.2.bytes
      obtain ⟨t', hrest, hshare'⟩ := ih hshare
      refine ⟨t', ?_, ?_⟩
      · rw [runCalls, List.foldlM_cons, happend]
        exact hrest
      · rwa [List.flatMap_cons, ← List.append_assoc]

/-- An event is added with its two calls, if no other call comes between them. -/
theorem run_appendEvent_eq_runCalls {host : Host}
    (h : Share cwd path l runnable host.files before) (i : ι) (hcwd : host.directory = cwd i)
    (e : Event) :
    ∃ t', runCalls cwd path host.files [(i, .text e), (i, .feed)] = .ok t' ∧
      (appendEvent (path i) e).run.run host = (.ok (), { host with files := t' }) := by
  obtain ⟨hnamed, hfind⟩ := h i
  refine ⟨_, ?_, run_appendEvent_of_find hnamed (hcwd ▸ hfind) e⟩
  rw [Event.lineBytes, ← append_of_find hnamed hfind, ← append_append_of_find hnamed hfind]
  exact bind_congr fun _ => bind_pure _

end Calls

/-! ### Unbroken schedules -/

/-- Whether each text is followed at once by the line feed of its own process. -/
def Unbroken : List (ι × Call) → Prop
  | [] => True
  | (i, .text _) :: (j, .feed) :: s => i = j ∧ Unbroken s
  | _ => False

/-- The calls with which a process records an event. -/
def callsOf (r : ι × Event) : List (ι × Call) := [(r.1, .text r.2), (r.1, .feed)]

/-- An unbroken schedule records one event after the other. -/
theorem Unbroken.exists_order {s : List (ι × Call)} (h : Unbroken s) :
    ∃ order : List (ι × Event), s = order.flatMap callsOf := by
  fun_induction Unbroken s with
  | case1 => exact ⟨[], rfl⟩
  | case2 i e j s ih =>
      obtain ⟨rfl, hrest⟩ := h
      obtain ⟨order, rfl⟩ := ih hrest
      exact ⟨(i, e) :: order, rfl⟩
  | case3 => exact h.elim

theorem flatMap_bytes_flatMap_callsOf (order : List (ι × Event)) :
    ((order.flatMap callsOf).flatMap fun c => c.2.bytes) =
      (order.map Prod.snd).flatMap Event.lineBytes := by
  induction order with
  | nil => rfl
  | cons c order ih =>
      rw [List.flatMap_cons, List.flatMap_append, ih, List.map_cons, List.flatMap_cons]
      rfl

/-! ### Schedules -/

section Schedules

variable {α : Type}

theorem countP_map_snd (p : α → Bool) (s : List (ι × α)) :
    (s.map Prod.snd).countP p = (s.filter fun c => p c.2).length := by
  rw [List.countP_map, List.countP_eq_length_filter]
  rfl

variable [DecidableEq ι]

/-- What one process does of what all do. -/
def own (i : ι) (s : List (ι × α)) : List α := (s.filter (·.1 = i)).map Prod.snd

theorem own_cons_self (i : ι) (a : α) (s : List (ι × α)) : own i ((i, a) :: s) = a :: own i s := by
  simp [own]

theorem own_cons_of_ne {i j : ι} (h : j ≠ i) (a : α) (s : List (ι × α)) :
    own i ((j, a) :: s) = own i s := by
  simp [own, h]

/-- The calls of all processes in an order that keeps the order of each: process `i` records the
events `events i`. -/
def IsSchedule (events : ι → List Event) (s : List (ι × Call)) : Prop :=
  ∀ i, own i s = calls (events i)

/-- Whether all events are there, those of each process in its order. -/
def IsOrder (events : ι → List Event) (order : List (ι × Event)) : Prop :=
  ∀ i, own i order = events i

/-- A process comes up in a list as often as it does something. -/
theorem count_map_fst (i : ι) (s : List (ι × α)) :
    (s.map Prod.fst).count i = (own i s).length := by
  induction s with
  | nil => rfl
  | cons c s ih =>
      obtain ⟨j, a⟩ := c
      by_cases hj : j = i
      · subst hj
        rw [own_cons_self, List.map_cons, List.count_cons_self, ih, List.length_cons]
      · rw [own_cons_of_ne hj, List.map_cons, List.count_cons_of_ne hj, ih]

/-- Lists in which each process does as much have the same length. -/
theorem length_eq_of_length_own {β : Type} {s : List (ι × α)} {s' : List (ι × β)}
    (h : ∀ i, (own i s).length = (own i s').length) : s.length = s'.length := by
  have hperm : (s.map Prod.fst).Perm (s'.map Prod.fst) :=
    List.perm_iff_count.2 fun i => by rw [count_map_fst, count_map_fst, h]
  rw [← List.length_map Prod.fst, hperm.length_eq, List.length_map]

theorem own_filter (i : ι) (p : α → Bool) (s : List (ι × α)) :
    own i (s.filter fun c => p c.2) = (own i s).filter p := by
  rw [own, own, List.filter_map, List.filter_filter, List.filter_filter]
  congr 1
  exact List.filter_congr fun c _ => Bool.and_comm ..

/-- In a schedule there is a line feed for each text. -/
theorem countP_of_isSchedule {events : ι → List Event} {s : List (ι × Call)}
    (hs : IsSchedule events s) :
    (s.map Prod.snd).countP Call.isFeed = (s.map Prod.snd).countP Call.isText := by
  rw [countP_map_snd Call.isFeed, countP_map_snd]
  refine length_eq_of_length_own fun i => ?_
  rw [own_filter i Call.isFeed, own_filter, hs i,
    ← List.countP_eq_length_filter, ← List.countP_eq_length_filter, countP_calls]

theorem own_flatMap_callsOf (i : ι) (order : List (ι × Event)) :
    own i (order.flatMap callsOf) = calls (own i order) := by
  induction order with
  | nil => rfl
  | cons r order ih =>
      obtain ⟨j, e⟩ := r
      rw [List.flatMap_cons, callsOf, List.cons_append, List.cons_append, List.nil_append]
      by_cases hj : j = i
      · subst hj
        rw [own_cons_self, own_cons_self, own_cons_self, ih, calls_cons]
      · rw [own_cons_of_ne hj, own_cons_of_ne hj, own_cons_of_ne hj, ih]

/-- The first call of a process is not for a line feed. -/
theorem eq_of_isSchedule {events : ι → List Event} {i j : ι} {e : Event} {s : List (ι × Call)}
    (hs : IsSchedule events ((i, .text e) :: (j, .feed) :: s)) : i = j := by
  by_contra hij
  have hj := hs j
  rw [own_cons_of_ne hij, own_cons_self] at hj
  cases hevents : events j with
  | nil => rw [hevents] at hj; cases hj
  | cons e' es => rw [hevents, calls_cons] at hj; cases hj

/-- What is left of a schedule when a process has recorded its first event. -/
theorem IsSchedule.rest {events : ι → List Event} {i : ι} {e : Event} {s : List (ι × Call)}
    (hs : IsSchedule events ((i, .text e) :: (i, .feed) :: s)) :
    IsSchedule (Function.update events i (events i).tail) s := by
  intro k
  have hk := hs k
  by_cases hki : k = i
  · subst hki
    rw [own_cons_self, own_cons_self] at hk
    rw [Function.update_self]
    cases hevents : events k with
    | nil => rw [hevents] at hk; cases hk
    | cons e' es =>
        rw [hevents, calls_cons] at hk
        exact (List.cons.inj (List.cons.inj hk).2).2
  · rwa [own_cons_of_ne (Ne.symm hki), own_cons_of_ne (Ne.symm hki),
      ← Function.update_of_ne hki (events i).tail events] at hk

end Schedules

/-! ### Intact logs -/

/-- Whether no line feed ends an empty line, if something stands on the first one or not. -/
def Tight : Bool → List Call → Prop
  | _, [] => True
  | _, .text _ :: cs => Tight true cs
  | filled, .feed :: cs => filled = true ∧ Tight false cs

/-- Whether texts and line feeds come in turn, each text with one behind it. -/
def Alternating : List Call → Prop
  | [] => True
  | .text _ :: .feed :: cs => Alternating cs
  | _ => False

/-- Without empty lines there is a text in front of each line feed. -/
theorem tight_of_lines {p : Bytes} (hp : 10 ∉ p) {cs : List Call}
    (h : [] ∉ lines (p ++ cs.flatMap Call.bytes)) : Tight (!p.isEmpty) cs := by
  induction cs generalizing p with
  | nil => trivial
  | cons c cs ih =>
      rw [List.flatMap_cons] at h
      cases c with
      | text e =>
          have hline : 10 ∉ p ++ Utf8.encode e.line := by
            simp [hp, (feed_not_mem_encode_line e).1]
          rw [Call.bytes, ← List.append_assoc] at h
          have hrest := ih hline h
          rwa [show (p ++ Utf8.encode e.line).isEmpty = false by
            simp [encode_line_ne_nil]] at hrest
      | feed =>
          rw [Call.bytes, List.singleton_append, lines_append_feed hp, List.mem_cons, not_or] at h
          refine ⟨?_, ih List.not_mem_nil h.2⟩
          cases p with
          | nil => exact absurd rfl h.1
          | cons b p => rfl

/-- **As many line feeds as texts, and no empty line**: then they come in turn. -/
theorem alternating_of_tight (cs : List Call) :
    (Tight false cs → cs.countP Call.isFeed ≤ cs.countP Call.isText ∧
      (cs.countP Call.isFeed = cs.countP Call.isText → Alternating cs)) ∧
    (Tight true cs → cs.countP Call.isFeed ≤ cs.countP Call.isText + 1 ∧
      (cs.countP Call.isFeed = cs.countP Call.isText + 1 →
        ∃ rest, cs = .feed :: rest ∧ Alternating rest)) := by
  induction cs with
  | nil => simp [Alternating]
  | cons c cs ih =>
      obtain ⟨ihEmpty, ihFilled⟩ := ih
      cases c with
      | text e =>
          rw [countP_isFeed_text, countP_isText_text]
          refine ⟨fun h => ⟨(ihFilled h).1, fun hcount => ?_⟩, fun h => ⟨?_, fun hcount => ?_⟩⟩
          · obtain ⟨rest, rfl, hrest⟩ := (ihFilled h).2 hcount
            exact hrest
          · have := (ihFilled h).1
            omega
          · have := (ihFilled h).1
            omega
      | feed =>
          rw [countP_isFeed_feed, countP_isText_feed]
          refine ⟨fun h => absurd h.1 (by decide), fun h => ⟨?_, fun hcount => ?_⟩⟩
          · have := (ihEmpty h.2).1
            omega
          · exact ⟨cs, rfl, (ihEmpty h.2).2 (by omega)⟩

section Intact

variable [DecidableEq ι] {events : ι → List Event} {s : List (ι × Call)} {before : Bytes}

/-- Whether the new lines of a log are the events that were recorded, those of each process in its
order, and each on a line of its own. -/
def Intact (events : ι → List Event) (before after : Bytes) : Prop :=
  ∃ order, IsOrder events order ∧
    lines after = lines before ++ order.map fun c => Utf8.encode c.2.line

/-- Events that are recorded one after the other are each on a line of their own. -/
theorem Unbroken.intact (h : Unbroken s) (hs : IsSchedule events s)
    (hended : ∀ b ∈ before.getLast?, b = 10) :
    Intact events before (before ++ s.flatMap fun c => c.2.bytes) := by
  obtain ⟨order, rfl⟩ := h.exists_order
  refine ⟨order, fun i => calls_injective ?_, ?_⟩
  · rw [← own_flatMap_callsOf, hs i]
  · rw [flatMap_bytes_flatMap_callsOf, lines_append hended, lines_flatMap_lineBytes, List.map_map,
      Function.comp_def]

/-- In a schedule a text that has a line feed at once behind it has its own. -/
theorem unbroken_of_alternating (hs : IsSchedule events s)
    (h : Alternating (s.map Prod.snd)) : Unbroken s := by
  fun_induction Unbroken s generalizing events with
  | case1 => trivial
  | case2 i e j s ih =>
      obtain rfl := eq_of_isSchedule hs
      exact ⟨rfl, ih hs.rest h⟩
  | case3 s hnil hpair =>
      rcases s with _ | ⟨⟨i, _ | _⟩, _ | ⟨⟨j, _ | _⟩, s⟩⟩
      · exact hnil rfl
      · exact h
      · exact h
      · exact hpair _ _ _ _ rfl
      · exact h
      · exact h
      · exact h

/-- **When a log stays intact**: exactly if no call has come between a text and its line feed. -/
theorem intact_iff_unbroken (hs : IsSchedule events s)
    (hended : ∀ b ∈ before.getLast?, b = 10) :
    Intact events before (before ++ s.flatMap fun c => c.2.bytes) ↔ Unbroken s := by
  refine ⟨fun ⟨order, _, hlines⟩ => ?_, fun h => h.intact hs hended⟩
  rw [lines_append hended, List.append_cancel_left_eq] at hlines
  have hfilled : [] ∉ lines ([] ++ (s.map Prod.snd).flatMap Call.bytes) := by
    rw [List.nil_append, List.flatMap_map, hlines]
    intro hmem
    obtain ⟨c, -, hc⟩ := List.mem_map.1 hmem
    exact encode_line_ne_nil c.2 hc
  have htight := tight_of_lines List.not_mem_nil hfilled
  exact unbroken_of_alternating hs
    (((alternating_of_tight _).1 htight).2 (countP_of_isSchedule hs))

/-- **Which lines a log has after a schedule**: every write call of every process has added what it
writes, and the lines are the events exactly if no call has come between a text and its line
feed. -/
theorem lines_of_runCalls {cwd : ι → Location} {path : ι → Path} {t : FileTree} {l : Location}
    {runnable : Bool} (hshare : Share cwd path l runnable t before)
    (hended : ∀ b ∈ before.getLast?, b = 10) (hs : IsSchedule events s) :
    ∃ t' after, runCalls cwd path t s = .ok t' ∧ Share cwd path l runnable t' after ∧
      after = before ++ s.flatMap (fun c => c.2.bytes) ∧
      (Intact events before after ↔ Unbroken s) := by
  obtain ⟨t', hrun, hshare'⟩ := runCalls_of_find hshare s
  exact ⟨t', _, hrun, hshare', rfl, intact_iff_unbroken hs hended⟩

end Intact

/-! ### Two processes -/

/-- Two processes that find the log of a host by the same path. -/
theorem share_lineLog : Share (fun _ : Bool => []) (fun _ => lineLog.path) lineLog false
    lineHost.files [123, 125, 10] := by
  obtain ⟨hreaches, hfile⟩ := lineHost_evaluated
  exact fun _ => ⟨directoryPart_path hreaches.1, find_path hreaches _ hfile rfl⟩

/-- The events of two processes. -/
def pairEvents : Bool → List Event
  | true => [oddEvent, bareEvent]
  | false => [bareEvent]

/-- The calls when one process records an event between two events of the other. -/
def turns : List (Bool × Call) :=
  [(true, .text oddEvent), (true, .feed), (false, .text bareEvent), (false, .feed),
    (true, .text bareEvent), (true, .feed)]

/-- Processes that take turns leave the log intact. -/
theorem lines_of_runCalls_turns :
    IsSchedule pairEvents turns ∧
      ∃ t' after, runCalls (fun _ => []) (fun _ => lineLog.path) lineHost.files turns = .ok t' ∧
        Share (fun _ : Bool => []) (fun _ => lineLog.path) lineLog false t' after ∧
        Intact pairEvents [123, 125, 10] after := by
  have hs : IsSchedule pairEvents turns := by
    intro i
    cases i <;> rfl
  obtain ⟨t', after, hrun, hshare, -, hintact⟩ := lines_of_runCalls share_lineLog (by simp) hs
  exact ⟨hs, t', after, hrun, hshare, hintact.2 ⟨rfl, rfl, rfl, trivial⟩⟩

/-- The calls when both processes write the text of an event before either ends its line. -/
def torn : List (Bool × Call) :=
  [(true, .text oddEvent), (false, .text bareEvent), (true, .feed), (false, .feed)]

/-- **A schedule that tears a line**: the log gets a line with both texts, and one with nothing. -/
theorem not_intact_torn :
    IsSchedule (fun i => [bif i then oddEvent else bareEvent]) torn ∧
      ∃ t' after, runCalls (fun _ => []) (fun _ => lineLog.path) lineHost.files torn = .ok t' ∧
        Share (fun _ : Bool => []) (fun _ => lineLog.path) lineLog false t' after ∧
        lines after =
          [[123, 125], Utf8.encode oddEvent.line ++ Utf8.encode bareEvent.line, []] ∧
        ¬ Intact (fun i => [bif i then oddEvent else bareEvent]) [123, 125, 10] after := by
  have hs : IsSchedule (fun i => [bif i then oddEvent else bareEvent]) torn := by
    intro i
    cases i <;> rfl
  obtain ⟨t', hrun, hshare⟩ := runCalls_of_find share_lineLog torn
  refine ⟨hs, t', _, hrun, hshare, ?_, fun hintact => ?_⟩
  · have htexts : 10 ∉ Utf8.encode oddEvent.line ++ Utf8.encode bareEvent.line := by
      simp [(feed_not_mem_encode_line oddEvent).1, (feed_not_mem_encode_line bareEvent).1]
    rw [lines_append (by simp), torn, List.flatMap_cons, List.flatMap_cons,
      ← List.append_assoc, List.flatMap_cons, Call.bytes, Call.bytes, Call.bytes,
      List.singleton_append, lines_append_feed htexts]
    rfl
  · exact (intact_iff_unbroken hs (by simp)).1 hintact

end StandardsGate.EventLog
