import StandardsGate.Proofs.Event.Appending
import StandardsGate.Proofs.Event.RoundTrip
import StandardsGate.Proofs.Host.Walking

/-!
The lines of a log.

Each event that is added to a log takes one line, and the line gives the event back. So the lines of
a log tell which events were added to it, in which order, whatever texts the events hold; lines that
were there before stay as they are, provided that the last one was ended.

Main definitions:

* `EventLog.lines` — the lines of what a log holds;
* `EventLog.eventOf?` — the event of a line.

Main results:

* `EventLog.lines_append` — lines are added to lines that have ended;
* `EventLog.eventOf?_encode_line` — **a line gives its event back**;
* `EventLog.lines_of_run_appendAll` — **the new lines of a log are the events added to it**.
-/

namespace StandardsGate

/-! ### Bytes of texts without control characters -/

/-- Bytes of a text without control characters are none themselves. -/
theorem Utf8.le_of_mem_encode {s : String} (h : Json.Printable s.toList) {b : UInt8}
    (hb : b ∈ encode s) : 0x20 ≤ b.toNat := by
  obtain ⟨c, hc, hb⟩ := List.mem_flatMap.1 hb
  have hlow := h c hc
  have hhigh := toNat_lt_or c
  unfold encodeChar at hb
  dsimp only at hb
  generalize c.toNat = n at hlow hhigh hb
  have hbyte : ∀ m, 0x20 ≤ m → m < 256 → 0x20 ≤ (UInt8.ofNat m).toNat := by
    intro m hm hlt
    rwa [toNat_ofNat_of_lt hlt]
  split at hb
  · rw [List.mem_singleton.1 hb]
    exact hbyte n hlow (by omega)
  split at hb
  · simp only [List.mem_cons, List.not_mem_nil, or_false] at hb
    rcases hb with rfl | rfl <;> exact hbyte _ (by omega) (by omega)
  split at hb
  · simp only [List.mem_cons, List.not_mem_nil, or_false] at hb
    rcases hb with rfl | rfl | rfl <;> exact hbyte _ (by omega) (by omega)
  · simp only [List.mem_cons, List.not_mem_nil, or_false] at hb
    rcases hb with rfl | rfl | rfl | rfl <;> exact hbyte _ (by omega) (by omega)

namespace EventLog

open FileTree

/-! ### Lines -/

/-- The lines of what a log holds: what stands in front of each line feed, and what stands behind the
last one, if there is something. -/
def lines : Bytes → List Bytes
  | [] => []
  | b :: bs =>
    if b = 10 then [] :: lines bs
    else match lines bs with
      | [] => [[b]]
      | l :: ls => (b :: l) :: ls

theorem lines_feed (bs : Bytes) : lines (10 :: bs) = [] :: lines bs := by
  rw [lines, if_pos rfl]

theorem lines_cons_of_ne {b : UInt8} (hb : b ≠ 10) {bs l : Bytes} {ls : List Bytes}
    (h : lines bs = l :: ls) : lines (b :: bs) = (b :: l) :: ls := by
  rw [lines, if_neg hb, h]

theorem exists_lines_of_ne_nil {bs : Bytes} (h : bs ≠ []) : ∃ l ls, lines bs = l :: ls := by
  cases bs with
  | nil => exact absurd rfl h
  | cons b bs =>
      by_cases hb : b = 10
      · subst hb
        exact ⟨[], lines bs, lines_feed bs⟩
      · rw [lines, if_neg hb]
        cases lines bs with
        | nil => exact ⟨[b], [], rfl⟩
        | cons l ls => exact ⟨b :: l, ls, rfl⟩

/-- What has no line feed and one behind it is a line. -/
theorem lines_append_feed {l : Bytes} (hl : 10 ∉ l) (bs : Bytes) :
    lines (l ++ 10 :: bs) = l :: lines bs := by
  induction l with
  | nil => exact lines_feed bs
  | cons b l ih =>
      obtain ⟨hb, hl⟩ : 10 ≠ b ∧ 10 ∉ l := by simpa using hl
      exact lines_cons_of_ne (Ne.symm hb) (ih hl)

/-- **Lines are added to lines that have ended.** -/
theorem lines_append {bs : Bytes} (h : ∀ b ∈ bs.getLast?, b = 10) (cs : Bytes) :
    lines (bs ++ cs) = lines bs ++ lines cs := by
  induction bs with
  | nil => rfl
  | cons b bs ih =>
      by_cases hb : b = 10
      · subst hb
        have hrest : ∀ b ∈ bs.getLast?, b = 10 := by
          intro b hb
          cases bs with
          | nil => cases hb
          | cons b' bs => exact h b hb
        rw [List.cons_append, lines_feed, lines_feed, ih hrest, List.cons_append]
      · cases bs with
        | nil => exact absurd (h b rfl) hb
        | cons b' bs =>
            obtain ⟨l, ls, hlines⟩ := exists_lines_of_ne_nil (List.cons_ne_nil b' bs)
            have hmore : lines (b' :: bs ++ cs) = l :: (ls ++ lines cs) := by
              rw [ih fun b hb => h b hb, hlines, List.cons_append]
            rw [List.cons_append, lines_cons_of_ne hb hmore, lines_cons_of_ne hb hlines,
              List.cons_append]

/-! ### The lines of events -/

/-- The event of a line. -/
def eventOf? (l : Bytes) : Option Event := (Utf8.decode? l).bind fun s => Event.ofLine? s.toList

/-- **A line gives its event back.** -/
theorem eventOf?_encode_line {e : Event} (h : e.Legible) :
    eventOf? (Utf8.encode e.line) = some e := by
  rw [eventOf?, Utf8.decode?_encode, Option.bind_some, Event.ofLine?_line h]

/-- An event takes one line, in which neither a line feed nor a carriage return stands. -/
theorem feed_not_mem_encode_line (e : Event) :
    10 ∉ Utf8.encode e.line ∧ 13 ∉ Utf8.encode e.line := by
  constructor
  · intro h
    exact absurd (Utf8.le_of_mem_encode e.printable_line h) (by decide)
  · intro h
    exact absurd (Utf8.le_of_mem_encode e.printable_line h) (by decide)

/-- The lines of events that are written one behind the other. -/
theorem lines_flatMap_lineBytes (es : List Event) :
    lines (es.flatMap Event.lineBytes) = es.map fun e => Utf8.encode e.line := by
  induction es with
  | nil => rfl
  | cons e es ih =>
      rw [List.flatMap_cons, Event.lineBytes, List.append_assoc, List.singleton_append,
        lines_append_feed (feed_not_mem_encode_line e).1, ih, List.map_cons]

variable {file : Path} {h h' : Host}

/-- **The new lines of a log are the events added to it.** Once an event has been added, the log is a
file, at a location where it was before or where nothing was. Behind the lines that were there, the
last of which has ended, there is one line for each event. They give the events back in the order in
which they were added, and nothing that an event says breaks its line. -/
theorem lines_of_run_appendAll {es : List Event} (hlegible : ∀ e ∈ es, e.Legible)
    (hrun : (forM es (appendEvent file)).run.run h = (.ok (), h')) :
    (es ≠ [] → h'.files.isFile h'.directory file = true) ∧
    ∀ l after runnable, h'.files.find h'.directory file = .ok (l, .file after runnable) →
      (∀ before, h.files.read h.directory file = .ok before → h.files.contentAt l = before) ∧
      ((∀ b ∈ (h.files.contentAt l).getLast?, b = 10) →
        ∃ new, lines after = lines (h.files.contentAt l) ++ new ∧ new.length = es.length ∧
          new.map eventOf? = es.map some ∧ ∀ line ∈ new, 10 ∉ line ∧ 13 ∉ line) := by
  constructor
  · intro hsome
    obtain ⟨l, runnable, hfind, -⟩ := exists_find_of_run_appendAll hsome hrun
    exact isFile_of_find hfind
  · intro l after runnable hfind
    obtain ⟨rfl, hbefore⟩ := find_of_run_appendAll hrun hfind
    refine ⟨hbefore, fun hended => ⟨es.map fun e => Utf8.encode e.line, ?_, List.length_map ..,
      ?_, ?_⟩⟩
    · rw [lines_append hended, lines_flatMap_lineBytes]
    · rw [List.map_map]
      exact List.map_congr_left fun e he => eventOf?_encode_line (hlegible e he)
    · intro line hline
      obtain ⟨e, -, rfl⟩ := List.mem_map.1 hline
      exact feed_not_mem_encode_line e

/-! ### Two events -/

/-- An event whose texts have line feeds, quotes and control characters, at a leap second. -/
def oddEvent : Event where
  time := ⟨1483228799, 1000000001⟩
  occurrence := .checkerFinished
  actor := "a\n\"b\"\\"
  standard := some "x\x00y"
  checker := some "\r\t"
  details := .obj [("n", .arr [.int (-3), .str "é\n"])]

/-- An event that has no more members than it must. -/
def bareEvent : Event where
  time := ⟨951827696, 0⟩
  occurrence := .runStart
  actor := ""
  standard := none
  checker := none
  details := .null

/-- The location of a log. -/
def lineLog : Location := ["log".toList]

/-- A host whose log has one line. -/
def lineHost : Host where
  files := FileTree.empty.put lineLog (.file [123, 125, 10] false)
  directory := []
  executable := ⟨[]⟩
  input := []
  actor := ""
  now := ⟨0, 0⟩
  processId := 1
  writes := 0
  start := fun _ _ t => (.error .nullInPath, t)

theorem lineHost_evaluated :
    lineHost.files.Reaches lineLog ∧
      lineHost.files.get? lineLog = some (.file [123, 125, 10] false) := by
  decide +kernel

theorem legible_oddEvent : oddEvent.Legible where
  isTime := by decide
  year_nonneg := by decide
  year_le := by decide
  isWhole := Json.isWhole_of_eq_true rfl
  readable := by
    refine .obj (by decide) (List.pairwise_singleton _ _) fun m hm => ?_
    rw [List.mem_singleton.1 hm]
    refine .arr (by decide) fun v hv => ?_
    simp only [List.mem_cons, List.not_mem_nil, or_false] at hv
    rcases hv with rfl | rfl
    · exact .int (by unfold Json.IsWholeNumber; decide)
    · exact .str _ _

theorem legible_bareEvent : bareEvent.Legible where
  isTime := by decide
  year_nonneg := by decide
  year_le := by decide
  isWhole := .null
  readable := .null _

/-- Two events behind a line that is there. -/
theorem lines_of_run_appendAll_odd :
    (∀ e ∈ [oddEvent, bareEvent], e.Legible) ∧
      ∃ h' after new,
        (forM [oddEvent, bareEvent] (appendEvent lineLog.path)).run.run lineHost = (.ok (), h') ∧
        h'.files.isFile h'.directory lineLog.path = true ∧
        h'.files.find h'.directory lineLog.path = .ok (lineLog, .file after false) ∧
        lines after = [[123, 125]] ++ new ∧ new.length = 2 ∧
        new.map eventOf? = [some oddEvent, some bareEvent] ∧
        ∀ line ∈ new, 10 ∉ line ∧ 13 ∉ line := by
  obtain ⟨hreaches, hfile⟩ := lineHost_evaluated
  have hnamed := FileTree.directoryPart_path hreaches.1
  have hfound : lineHost.files.find lineHost.directory lineLog.path =
      .ok (lineLog, .file [123, 125, 10] false) := FileTree.find_path hreaches _ hfile rfl
  have hlegible : ∀ e ∈ [oddEvent, bareEvent], e.Legible := by
    simp [legible_oddEvent, legible_bareEvent]
  have hcontent : lineHost.files.contentAt lineLog = [123, 125, 10] := contentAt_of_find hfound
  obtain ⟨h', hrun, hfind⟩ := run_appendAll_of_find hnamed [oddEvent, bareEvent] hfound
  obtain ⟨hthere, hheld⟩ := lines_of_run_appendAll hlegible hrun
  obtain ⟨-, hnew⟩ := hheld _ _ _ hfind
  obtain ⟨new, hlines, hrest⟩ := hnew (by simp [hcontent])
  rw [hcontent] at hlines
  exact ⟨hlegible, h', _, new, hrun, hthere (by simp), hfind, hlines, hrest⟩

end EventLog

end StandardsGate
