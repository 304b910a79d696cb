import StandardsGate.OrderedMap
import StandardsGate.Standards.Options
import StandardsGate.Text.Blank
import StandardsGate.Unicode.Capital
import StandardsGate.Yaml.Decode

/-!
Standards and their written form.

A standards file is a mapping from the names of standards to their rules and checkers. The order of
standards and of the checkers in a standard counts. Keys that are not known are kept and do nothing.

Main definitions:

* `CheckerDeclaration`, `Standard`, `Config` — what a standards file declares;
* `Config.decode` — the declarations of a YAML document;
* `displayName` — the name under which a checker reports.
-/

namespace StandardsGate

/-- The declaration of a checker in a standard. -/
structure CheckerDeclaration where
  /-- Which implementation is meant. -/
  identity : String
  /-- The extensions of the files to inspect, in the place of the checker's own. -/
  extensions : Option (List String)
  options : Options
  /-- What stands under keys that are not known. -/
  extra : SortedMap Yaml.Value
deriving Inhabited

/-- A standard: which files it covers, and which checkers run on them. -/
structure Standard where
  files : List String
  exclude : List String
  checkers : OrderedMap String CheckerDeclaration
  /-- What stands under keys that are not known. -/
  extra : SortedMap Yaml.Value
deriving Inhabited

/-- Standards by name, in the order of declaration. -/
structure Config where
  standards : OrderedMap String Standard
deriving Inhabited

/-- The rules of a standard that declares none: they match every file. -/
def defaultRules : List String := ["**"]

/-- The name under which a checker reports: its key, beginning with a capital. -/
def displayName (key : String) : String :=
  match key.toList with
  | [] => ""
  | c :: rest => String.ofList (Unicode.upperCase c ++ rest)

namespace Config

/-- Whether there is more than one standard. -/
def hasSeveral (c : Config) : Bool := 1 < c.standards.size

/-! ### The written form -/

open Yaml (Node Decoding)

/-- Entries by the texts of their keys. -/
def keyed (entries : List (Node × Node)) : Decoding (List (String × Node)) :=
  entries.mapM fun e => return (← Yaml.text e.1, e.2)

/-- The value under the known keys that name one field; there must not be two. -/
def field? (keys : List String) (entries : List (String × Node)) : Decoding (Option Node) :=
  match entries.filter (fun e => keys.contains e.1) with
  | [] => return none
  | [e] => return some e.2
  | _ => throw .repeatedKey

/-- The values under keys that are not known. -/
def extras (known : List String) (depth : Nat) (entries : List (String × Node)) :
    Decoding (SortedMap Yaml.Value) := do
  let others := entries.filter fun e => !known.contains e.1
  return .ofList (← others.mapM fun e => return (e.1, ← Yaml.value false depth e.2))

/-- The options of a checker. -/
def options (depth : Nat) (n : Node) : Decoding Options := do
  match ← Yaml.optional n with
  | none => return ∅
  | some n =>
    let (entries, depth) ← Yaml.mapping depth n
    return .ofList (← (← keyed entries).mapM fun e => return (e.1, ← Yaml.value true depth e.2))

/-- The keys of a checker declaration. -/
def declarationKeys : List String := ["checker", "class", "extensions", "options"]

/-- A checker declaration. The implementation may also stand under `class`. -/
def declaration (depth : Nat) (n : Node) : Decoding CheckerDeclaration := do
  let (entries, depth) ← Yaml.mapping depth n
  let entries ← keyed entries
  let some identity ← field? ["checker", "class"] entries | throw .missingField
  let identity ← Yaml.text identity
  let extensions ← match ← field? ["extensions"] entries with
    | none => pure none
    | some n =>
      match ← Yaml.optional n with
      | none => pure none
      | some n => pure (some (← Yaml.texts depth n))
  let options ← match ← field? ["options"] entries with
    | none => pure ∅
    | some n => options depth n
  let extra ← extras declarationKeys depth entries
  return ⟨identity, extensions, options, extra⟩

/-- Named parts. A name that comes again keeps its place and gets the later part. -/
def named {α : Type} (depth : Nat) (read : Nat → Node → Decoding α) (n : Node) :
    Decoding (OrderedMap String α) := do
  let (entries, depth) ← Yaml.mapping depth n
  return .ofList (← (← keyed entries).mapM fun e => return (e.1, ← read depth e.2))

/-- The keys of a standard. -/
def standardKeys : List String := ["files", "exclude", "checkers"]

/-- A standard. -/
def standard (depth : Nat) (n : Node) : Decoding Standard := do
  let (entries, depth) ← Yaml.mapping depth n
  let entries ← keyed entries
  let files ← match ← field? ["files"] entries with
    | none => pure defaultRules
    | some n => Yaml.texts depth n
  let exclude ← match ← field? ["exclude"] entries with
    | none => pure []
    | some n => Yaml.texts depth n
  let checkers ← match ← field? ["checkers"] entries with
    | none => pure ∅
    | some n =>
      match ← Yaml.optional n with
      | none => pure ∅
      | some n => named depth declaration n
  let extra ← extras standardKeys depth entries
  return ⟨files, exclude, checkers, extra⟩

/-- The standards of a document's root. -/
def ofNode (n : Node) : Decoding Config := return ⟨← named Yaml.depthLimit standard n⟩

/-- The declarations of a YAML text, not validated. -/
def decode (yaml : String) : Except Yaml.Fault Config := do
  Yaml.decode (← Yaml.document yaml) ofNode

end Config

end StandardsGate
