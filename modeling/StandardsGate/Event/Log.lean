import StandardsGate.Event.Event
import StandardsGate.Host.Host

/-!
The log of events.

Main definitions:

* `EventLog` — the file that events are appended to, if they are recorded;
* `EventLog.record` — appends an event.
-/

namespace StandardsGate

/-- The file that events are appended to; `none` if they are not recorded. -/
structure EventLog where
  file : Option Path
deriving DecidableEq, Repr, Inhabited

/-- The line of an event with its line feed. -/
def Event.lineBytes (e : Event) : Bytes := Utf8.encode e.line ++ [10]

/-- Creates the directory of a log, if it is missing. -/
def ensureLogDirectory (file : Path) : Action Host Unit := do
  let h ← get
  match file.parent? with
  | none => return
  | some d =>
    if d.chars.isEmpty || h.files.exists? h.directory d then return
    onHost (fun e => .user (.eventsDirectory d e)) fun h =>
      let (files, result) := h.files.makeDirectories h.directory d
      (result, { h with files := files })

/-- Appends an event to a log. -/
def appendEvent (file : Path) (e : Event) : Action Host Unit := do
  ensureLogDirectory file
  onHost (fun e => .user (.eventsFile file e)) fun h =>
    match h.files.append h.directory file e.lineBytes with
    | .ok files => (.ok (), { h with files := files })
    | .error e => (.error e, h)

/-- Appends an event, if events are recorded. -/
def EventLog.record (log : EventLog) (e : Event) : Action Host Unit :=
  match log.file with
  | some file => appendEvent file e
  | none => return

end StandardsGate
