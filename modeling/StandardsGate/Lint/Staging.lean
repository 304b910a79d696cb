import StandardsGate.Host.AtomicWrite
import StandardsGate.Json.Reader
import StandardsGate.Json.Writer

/-!
Copies of linter configurations.

A linter is given a copy of its configuration in a staging directory. The configurations that it
extends are copied beside it, and an entry that leads to one of them is renamed to `./<name>` unless
it names a neighbour already. Files of one name share one copy.

Main definitions:

* `Staging.extendsEntries`, `Staging.renameExtends` — the entries that a configuration extends;
* `Staging.copyConfig` — copies a configuration with all that it extends;
* `stageConfig` — the same, into a directory that is created if it is missing.
-/

namespace StandardsGate

namespace Staging

/-- The key under which a configuration says what it extends. -/
def extendsKey : String := "extends"

/-- The JSON value of a file's content. -/
def valueOf? (content : Bytes) : Option Json := do
  (Json.parse (← Utf8.decode? content)).toOption

/-- What a value extends: a text, or the texts of an array. -/
def entriesOf (v : Json) : List String :=
  match v.get? extendsKey with
  | some (.str entry) => [entry]
  | some (.arr items) => items.filterMap Json.str?
  | _ => []

/-- What a configuration extends. One that is not JSON extends nothing. -/
def extendsEntries (content : Bytes) : List String :=
  match valueOf? content with
  | some v => entriesOf v
  | none => []

/-- A text under its new name, if it has one. -/
def renameEntry (renames : SortedMap String) : Json → Json
  | .str s => .str ((renames.get? s).getD s)
  | v => v

/-- What a member of a configuration becomes. -/
def renameMember (renames : SortedMap String) (m : String × Json) : String × Json :=
  if m.1 = extendsKey then
    match m.2 with
    | .arr items => (m.1, .arr (items.map (renameEntry renames)))
    | v => (m.1, renameEntry renames v)
  else m

/-- A configuration with its entries renamed. -/
def renameExtends (renames : SortedMap String) : Json → Json
  | .obj members => .obj (members.map (renameMember renames))
  | v => v

/-- Whether an entry names a neighbour of the configuration by a name. -/
def namesSibling (entry : String) (name : List Char) : Bool :=
  (Path.ofString entry).components.filter (· != .here) == [.name name]

/-- The content of a copy. It is the source's own unless an entry has to be renamed. -/
def copyContent (content : Bytes) (renames : SortedMap String) : Bytes :=
  if renames.entries.isEmpty then content
  else match valueOf? content with
    | some v => Utf8.encode (renameExtends renames v).pretty
    | none => content

/-- Copying, with the sources that have been met. -/
abbrev Copying := StateT (List Path) (Action Host)

/-- By what a source is recognised: the place that it leads to. -/
def sourceKey (h : Host) (source : Path) : Path :=
  (h.files.canonical? h.directory source).getD source

/-- Whether a path leads to a file. -/
def isFile (p : Path) : Copying Bool := do
  let h ← getThe Host
  return h.files.isFile h.directory p

/-- The content of a source. -/
def readSource (source : Path) : Copying Bytes := do
  let h ← getThe Host
  match h.files.read h.directory source with
  | .ok content => return content
  | .error e => throw (.config (.unreadableConfig source e))

/-- Writes a copy. -/
def writeCopy (copy : Path) (content : Bytes) : Copying Unit :=
  onHost (fun e => .config (.unwritableCopy copy e)) fun h => writeAtomically h copy content

/-- Copies a source into the staging directory, and before it all that it extends and that has not
been copied yet: the path of the copy. `fuel` bounds how deep configurations extend each other. -/
def copyConfig (fuel : Nat) (staging source : Path) : Copying Path := do
  match fuel with
  | 0 => throw (.internal (.other "configurations extend each other without end"))
  | fuel + 1 =>
    let some name := source.fileName? | throw (.config (.namelessConfig source))
    let copy := staging.join ⟨name⟩
    let key := sourceKey (← getThe Host) source
    if (← get).any (·.same key) then return copy
    modify (key :: ·)
    let content ← readSource source
    let base := source.parent?.getD ⟨['.']⟩
    let renames ← (extendsEntries content).foldlM (fun (renames : SortedMap String) (entry : String) => do
      let extended := base.join (.ofString entry)
      if !(← isFile extended) then return renames
      let staged ← copyConfig fuel staging extended
      match staged.fileName? with
      | some name =>
        if namesSibling entry name then return renames
        else return renames.insert entry (String.ofList ('.' :: '/' :: name))
      | none => return renames) ∅
    writeCopy copy (copyContent content renames)
    return copy

/-- How many characters there are. -/
def characters : Nat := 0x110000

/-- How deep configurations can extend each other: no deeper than there are texts that can be the
path of a place. -/
def depthBound (h : Host) : Nat :=
  Nat.pow (characters + 1) (h.files.longestPlace h.directory) + 1

end Staging

/-- Copies a configuration and all that it extends into a staging directory: the path of its
copy. -/
def stageConfig (source staging : Path) : Action Host Path := do
  onHost (fun e => .config (.stagingDirectory staging e)) fun h =>
    let (files, result) := h.files.makeDirectories h.directory staging
    (result, { h with files := files })
  let fuel := Staging.depthBound (← get)
  (·.1) <$> (Staging.copyConfig fuel staging source).run []

end StandardsGate
