import StandardsGate.Event.Timestamp
import StandardsGate.Json.Reader
import StandardsGate.Json.Shape

/-!
What happens in a run.

An event is written as one line of JSON.

Main definitions:

* `Event` — what happened, when, to whom, and with which details;
* `Event.line` — the written form;
* `Event.ofJson`, `Event.ofLine?` — the event of a written form.
-/

namespace StandardsGate

/-- What can happen in a run. -/
inductive Occurrence
  | runStart
  | malformedHunk
  | checkerFinished
  | runFinished
deriving DecidableEq, Repr, Inhabited

namespace Occurrence

/-- The name of an occurrence. -/
def name : Occurrence → String
  | runStart => "run_start"
  | malformedHunk => "malformed_hunk"
  | checkerFinished => "checker_finished"
  | runFinished => "run_finished"

/-- All occurrences. -/
def all : List Occurrence := [runStart, malformedHunk, checkerFinished, runFinished]

/-- The occurrence of a name. -/
def ofName? (s : String) : Option Occurrence := all.find? (·.name == s)

end Occurrence

/-- Something that happened in a run. -/
structure Event where
  time : Timestamp
  occurrence : Occurrence
  /-- Who started the run. -/
  actor : String
  standard : Option String
  checker : Option String
  details : Json
deriving Repr, Inhabited

namespace Event

/-- A member that is only written when there is a text for it. -/
def optionalMember (key : String) : Option String → List (String × Json)
  | some s => [(key, .str s)]
  | none => []

/-- The members of the written form, in the order of writing. -/
def members (e : Event) : List (String × Json) :=
  [("ts", .str e.time.text), ("action", .str e.occurrence.name), ("actor", .str e.actor)] ++
    optionalMember "standard" e.standard ++ optionalMember "checker" e.checker ++
    [("details", e.details)]

/-- The written form, without a line feed. -/
def line (e : Event) : String := Json.compact (.obj e.members)

/-- A time. -/
def readTime (v : Json) : Except Json.Mismatch Timestamp := do
  match Timestamp.parse? (← v.text) with
  | some t => return t
  | none => throw (.range v "an RFC 3339 formatted date and time string")

/-- An occurrence: its name, or an object with its name as the only key and nothing under it. -/
def readOccurrence (v : Json) : Except Json.Mismatch Occurrence := do
  let name ← match v with
    | .obj [(name, .null)] => pure name
    | v => v.text
  match Occurrence.ofName? name with
  | some o => return o
  | none => throw (.range v "an event action")

/-- The names of the members. -/
def memberNames : List String := ["ts", "action", "actor", "standard", "checker", "details"]

/-- The event of a JSON value. In an object an optional member may be missing; an array has all. -/
def ofJson (v : Json) : Except Json.Mismatch Event :=
  Json.record "Event" memberNames (fun absent members => do
    let required (name : String) (place : Nat) : Except Json.Mismatch Json :=
      match members[place]? with
      | some (some v) => .ok v
      | _ => .error (absent name place)
    let optional (name : String) (place : Nat) : Except Json.Mismatch Json :=
      if v.isArray then required name place else .ok ((members[place]?.join).getD .null)
    let time ← readTime (← required "ts" 0)
    let occurrence ← readOccurrence (← required "action" 1)
    let actor ← (← required "actor" 2).text
    let standard ← Json.optional Json.text (← optional "standard" 3)
    let checker ← Json.optional Json.text (← optional "checker" 4)
    let details ← required "details" 5
    return ⟨time, occurrence, actor, standard, checker, details⟩) v

/-- The event of a line. -/
def ofLine? (line : List Char) : Option Event :=
  match Json.parseChars line with
  | .ok v => (ofJson v).toOption
  | .error _ => none

end Event

end StandardsGate
