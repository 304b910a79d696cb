import StandardsGate.Yaml.Document
import StandardsGate.Yaml.Value

/-!
Reading values off a document.

Collections nest at most `depthLimit` deep, aliases followed included, and a document's aliases are
followed at most `aliasFactor` times for each of its events. A tag beginning with an exclamation
mark is kept around an untyped value; the tags of the core schema decide what a scalar stands for.

Main definitions:

* `Yaml.Decoding` — reading with a document at hand and a count of the aliases followed;
* `Yaml.value` — an untyped value;
* `Yaml.mapping`, `Yaml.sequence`, `Yaml.text`, `Yaml.optional` — the typed views of a node.
-/

namespace StandardsGate.Yaml

/-- How deep collections may nest. -/
def depthLimit : Nat := 128

/-- How many aliases may be followed for each event of the document. -/
def aliasFactor : Nat := 100

/-- Reading a document's values: the document, the number of aliases followed, and failure. -/
abbrev Decoding := ReaderT Document (StateT Nat (Except Fault))

/-- The node itself, or the one that an alias refers to. -/
def follow (n : Node) : Decoding Node := do
  match n with
  | .alias id =>
    let d ← read
    let count := (← get) + 1
    set count
    if d.events * aliasFactor < count then throw .tooManyAliases
    match d.anchored? id with
    | some n => return n
    | none => throw .unknownAnchor
  | n => return n

/-- The core schema's tag of a kind. -/
def coreTag (kind : String) : String := "tag:yaml.org,2002:" ++ kind

/-- The name of a local tag: what follows its exclamation mark, or the mark alone. -/
def localTag? (tag : Option String) : Option String :=
  match tag with
  | none => none
  | some t =>
    match t.toList with
    | ['!'] => some "!"
    | '!' :: rest => some (String.ofList rest)
    | _ => none

/-- What a text stands for under a tag of the core schema. -/
def taggedScalar (tag text : String) : Option Value :=
  if tag == coreTag "bool" then (boolOf? text).map .bool
  else if tag == coreTag "int" then
    match intOf? text.toList with
    | some n => if intRange n = .fits then some (.int n) else none
    | none => none
  else if tag == coreTag "float" then (floatOf? text.toList).map .float
  else if tag == coreTag "null" then (if isNullText text then some .null else none)
  else some (.str text)

/-- The value of a scalar. -/
def scalar (tag : Option String) (plain : Bool) (text : String) : Decoding Value := do
  let v? := match tag with
    | some t =>
      if (localTag? tag).isSome then (if plain then scalarValue text else some (.str text))
      else taggedScalar t text
    | none => if plain then scalarValue text else some (.str text)
  match v? with
  | some v => return v
  | none => throw .badScalar

/-- A value under its local tag. Where tags are not allowed, a local tag is an error. -/
def underTag (tagsAllowed : Bool) (tag : Option String) (v : Value) : Decoding Value := do
  match localTag? tag with
  | none => return v
  | some t => if tagsAllowed then return .tagged t v else throw .wrongType

/-- The entries of a mapping, whose keys must differ. -/
def distinctEntries (entries : List (Value × Value)) : Decoding (List (Value × Value)) := do
  let rec repeats : List (Value × Value) → Bool
    | [] => false
    | (k, _) :: rest => rest.any (fun e => k.same e.1) || repeats rest
  if repeats entries then throw .repeatedKey else return entries

/-- The untyped value of a node that is no alias. The nodes in it are read by `inner`; without it, a
collection is nested too deep. -/
def nodeValue (tagsAllowed : Bool) (inner : Option (Node → Decoding Value)) :
    Node → Decoding Value
  | .alias _ => throw .unknownAnchor
  | .scalar tag plain text => do underTag tagsAllowed tag (← scalar tag plain text)
  | .seq tag items => do
    let some read := inner | throw .tooDeep
    underTag tagsAllowed tag (.seq (← items.mapM read))
  | .map tag entries => do
    let some read := inner | throw .tooDeep
    let entries ← entries.mapM fun e => do return (← read e.1, ← read e.2)
    underTag tagsAllowed tag (.map (← distinctEntries entries))

/-- The untyped value of a node, collections nesting at most `depth` deep. -/
def value (tagsAllowed : Bool) : Nat → Node → Decoding Value
  | 0, n => do nodeValue tagsAllowed none (← follow n)
  | depth + 1, n => do nodeValue tagsAllowed (some (value tagsAllowed depth)) (← follow n)

/-! ### Typed views -/

/-- Whether a node was left out: a plain scalar without text. -/
def isAbsent : Node → Bool
  | .scalar _ plain text => plain && text.isEmpty
  | _ => false

/-- The entries of a mapping, and the depth left for them. A node left out has none. -/
def mapping (depth : Nat) (n : Node) : Decoding (List (Node × Node) × Nat) := do
  match ← follow n, depth with
  | .map _ entries, depth + 1 => return (entries, depth)
  | .map .., 0 => throw .tooDeep
  | n, depth => if isAbsent n then return ([], depth) else throw .wrongType

/-- The items of a sequence, and the depth left for them. A node left out has none. -/
def sequence (depth : Nat) (n : Node) : Decoding (List Node × Nat) := do
  match ← follow n, depth with
  | .seq _ items, depth + 1 => return (items, depth)
  | .seq .., 0 => throw .tooDeep
  | n, depth => if isAbsent n then return ([], depth) else throw .wrongType

/-- The text of a scalar, whatever it might stand for elsewhere. -/
def text (n : Node) : Decoding String := do
  match ← follow n with
  | .scalar _ _ text => return text
  | _ => throw .wrongType

/-- The texts of a sequence of scalars. -/
def texts (depth : Nat) (n : Node) : Decoding (List String) := do
  (← sequence depth n).1.mapM text

/-- The node, unless it is a null value. -/
def optional (n : Node) : Decoding (Option Node) := do
  match ← follow n with
  | .scalar tag plain text =>
    let given : Option Node := some (.scalar tag plain text)
    if !plain then return given
    match tag with
    | some t =>
      if t != coreTag "null" then return given
      else if isNullText text then return none else throw .badScalar
    | none => if text.isEmpty || isNullText text then return none else return given
  | n => return some n

/-- Runs a reading of a document's root; a text without a document has an absent root. -/
def decode {α : Type} (d : Document) (reading : Node → Decoding α) : Except Fault α := do
  let (a, _) ← ((reading (d.root.getD (.scalar none true ""))).run d).run 0
  return a

end StandardsGate.Yaml
