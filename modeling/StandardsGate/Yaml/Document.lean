import StandardsGate.Yaml.Node
import StandardsGate.Yaml.Token

/-!
From tokens to documents.

The grammar of nodes is read by recursive descent. Where a node may be left out, an empty plain
scalar stands for it. An anchor gets a number when its node begins: the number of different anchor
names met before. A text holds at most one document.

Main definitions:

* `Yaml.DocumentReader` — the reader's state: the tokens ahead and the anchors;
* `Yaml.document` — the document of a text.
-/

namespace StandardsGate.Yaml

/-- An anchored node: the anchor's number, when it began among all anchored nodes, and the node. -/
structure Anchored where
  id : Nat
  order : Nat
  node : Node

/-- The state of reading a document: the tokens ahead, the handles declared for tags, the anchor
names with their numbers, how many anchored nodes have begun, and those that are complete. -/
structure DocumentReader where
  tokens : List Token
  handles : List (String × String) := []
  names : List (String × Nat) := []
  begun : Nat := 0
  anchored : List Anchored := []

/-- Reading moves through the tokens, and may fail. -/
abbrev Reading := StateT DocumentReader (Except Fault)

namespace Reading

/-- The token ahead. -/
def peek : Reading Token := do return (← get).tokens.head?.getD .streamEnd

/-- Moves over the token ahead. -/
def skip : Reading Unit := modify fun r => { r with tokens := r.tokens.drop 1 }

/-- Moves over the token ahead and answers the one after it. -/
def next : Reading Token := do
  skip
  peek

/-- The empty scalar that stands for a node left out. -/
def absent : Node := .scalar none true ""

/-- What may stand in front of a node: an anchor and a tag. -/
structure Properties where
  anchor : Option String := none
  tag : Option (String × String) := none

/-- Reads an anchor and a tag, in either order. -/
def properties : Reading Properties := do
  match ← peek with
  | .anchor a =>
    match ← next with
    | .tag h s => skip; return ⟨some a, some (h, s)⟩
    | _ => return ⟨some a, none⟩
  | .tag h s =>
    match ← next with
    | .anchor a => skip; return ⟨some a, some (h, s)⟩
    | _ => return ⟨none, some (h, s)⟩
  | _ => return {}

/-- The full tag of a handle and a suffix. -/
def resolveTag (tag : Option (String × String)) : Reading (Option String) := do
  match tag with
  | none => return none
  | some ("", suffix) => return some suffix
  | some (handle, suffix) =>
    match (← get).handles.lookup handle with
    | some start => return some (start ++ suffix)
    | none => throw .unknownTagHandle

/-- Gives an anchor its number; answers it with the order of the anchored node. -/
def begin? (anchor : Option String) : Reading (Option (Nat × Nat)) := do
  match anchor with
  | none => return none
  | some name =>
    let r ← get
    let id := r.names.length
    let names := (name, id) :: r.names.filter (fun p => p.1 != name)
    set { r with names, begun := r.begun + 1 }
    return some (id, r.begun)

/-- Records a complete node under its anchor. -/
def complete (mark : Option (Nat × Nat)) (n : Node) : Reading Node := do
  match mark with
  | none => return n
  | some (id, order) =>
    modify fun r => { r with anchored := ⟨id, order, n⟩ :: r.anchored }
    return n

/-- Whether a token ends an entry of an indented sequence. -/
def endsEntry : Token → Bool
  | .blockEntry | .blockEnd => true
  | _ => false

/-- Whether a token ends a key or value of an indented mapping. -/
def endsPart : Token → Bool
  | .key | .value | .blockEnd => true
  | _ => false

mutual

/-- Reads a node. Block collections are allowed where `block` says so, and a sequence at the
indentation of its mapping where `dashes` does. -/
def node (fuel : Nat) (block dashes : Bool) : Reading Node := do
  match fuel with
  | 0 => throw .unexpectedToken
  | fuel + 1 =>
    match ← peek with
    | .alias name =>
      skip
      match (← get).names.lookup name with
      | some id => return .alias id
      | none => throw .unknownAnchor
    | _ =>
      let p ← properties
      let tag ← resolveTag p.tag
      let t ← peek
      match t with
      | .scalar text plain =>
        skip
        let mark ← begin? p.anchor
        complete mark (.scalar tag plain text)
      | .flowSeqStart =>
        skip
        let mark ← begin? p.anchor
        complete mark (.seq tag (← flowItems fuel true))
      | .flowMapStart =>
        skip
        let mark ← begin? p.anchor
        complete mark (.map tag (← flowEntries fuel true))
      | _ =>
        if dashes && t == .blockEntry then
          let mark ← begin? p.anchor
          complete mark (.seq tag (← dashItems fuel))
        else if block && t == .blockSeqStart then
          skip
          let mark ← begin? p.anchor
          complete mark (.seq tag (← blockItems fuel))
        else if block && t == .blockMapStart then
          skip
          let mark ← begin? p.anchor
          complete mark (.map tag (← blockEntries fuel))
        else if p.anchor.isSome || p.tag.isSome then
          let mark ← begin? p.anchor
          complete mark (.scalar tag true "")
        else throw .unexpectedToken

/-- Reads the items of an indented sequence up to its end. -/
def blockItems (fuel : Nat) : Reading (List Node) := do
  match fuel with
  | 0 => throw .unexpectedToken
  | fuel + 1 =>
    match ← peek with
    | .blockEntry =>
      let t ← next
      let item ← if endsEntry t then pure absent else node fuel true false
      return item :: (← blockItems fuel)
    | .blockEnd => skip; return []
    | _ => throw .badIndentation

/-- Reads the items of a sequence that stands at the indentation of its mapping. -/
def dashItems (fuel : Nat) : Reading (List Node) := do
  match fuel with
  | 0 => throw .unexpectedToken
  | fuel + 1 =>
    match ← peek with
    | .blockEntry =>
      let t ← next
      let item ← if endsEntry t || endsPart t then pure absent else node fuel true false
      return item :: (← dashItems fuel)
    | _ => return []

/-- Reads the entries of an indented mapping up to its end. -/
def blockEntries (fuel : Nat) : Reading (List (Node × Node)) := do
  match fuel with
  | 0 => throw .unexpectedToken
  | fuel + 1 =>
    match ← peek with
    | .key =>
      let t ← next
      let key ← if endsPart t then pure absent else node fuel true true
      let value ← blockValue fuel
      return (key, value) :: (← blockEntries fuel)
    | .blockEnd => skip; return []
    | _ => throw .badIndentation

/-- Reads the value of an entry of an indented mapping. -/
def blockValue (fuel : Nat) : Reading Node := do
  match fuel with
  | 0 => throw .unexpectedToken
  | fuel + 1 =>
    match ← peek with
    | .value =>
      let t ← next
      if endsPart t then return absent else node fuel true true
    | _ => return absent

/-- Reads the items of a sequence in brackets; an item may be a mapping of one entry. -/
def flowItems (fuel : Nat) (first : Bool) : Reading (List Node) := do
  match fuel with
  | 0 => throw .unexpectedToken
  | fuel + 1 =>
    if (← peek) == .flowSeqEnd then
      skip
      return []
    if !first then
      if (← peek) == .flowEntry then skip else throw .unexpectedToken
    match ← peek with
    | .flowSeqEnd => skip; return []
    | .key =>
      skip
      let item ← flowPair fuel
      return item :: (← flowItems fuel false)
    | _ =>
      let item ← node fuel false false
      return item :: (← flowItems fuel false)

/-- Reads a mapping of one entry inside brackets, after its key sign. Where the key is left out, the
token in its place is passed over. -/
def flowPair (fuel : Nat) : Reading Node := do
  match fuel with
  | 0 => throw .unexpectedToken
  | fuel + 1 =>
    let key ←
      match ← peek with
      | .value | .flowEntry | .flowSeqEnd => do skip; pure absent
      | _ => node fuel false false
    let value ←
      if (← peek) == .value then do
        match ← next with
        | .flowEntry | .flowSeqEnd => pure absent
        | _ => node fuel false false
      else pure absent
    return .map none [(key, value)]

/-- Reads the entries of a mapping in braces. -/
def flowEntries (fuel : Nat) (first : Bool) : Reading (List (Node × Node)) := do
  match fuel with
  | 0 => throw .unexpectedToken
  | fuel + 1 =>
    if (← peek) == .flowMapEnd then
      skip
      return []
    if !first then
      if (← peek) == .flowEntry then skip else throw .unexpectedToken
    match ← peek with
    | .flowMapEnd => skip; return []
    | .key =>
      let key ←
        match ← next with
        | .value | .flowEntry | .flowMapEnd => pure absent
        | _ => node fuel false false
      let value ←
        if (← peek) == .value then do
          match ← next with
          | .flowEntry | .flowMapEnd => pure absent
          | _ => node fuel false false
        else pure absent
      return (key, value) :: (← flowEntries fuel false)
    | _ =>
      let key ← node fuel false false
      return (key, absent) :: (← flowEntries fuel false)

end

/-! ### Documents -/

/-- The handles that need no declaration. -/
def defaultHandles : List (String × String) := [("!", "!"), ("!!", "tag:yaml.org,2002:")]

/-- Reads the directives in front of a document: at most one version, 1.1 or 1.2, and handles that
differ. -/
def directives : Nat → Bool → Reading Unit
  | 0, _ => throw .badDirective
  | fuel + 1, versioned => do
    match ← peek with
    | .version major minor =>
      if versioned || major != 1 || (minor != 1 && minor != 2) then throw .badDirective
      skip
      directives fuel true
    | .tagHandle handle start =>
      if ((← get).handles.lookup handle).isSome then throw .badDirective
      modify fun r => { r with handles := r.handles ++ [(handle, start)] }
      skip
      directives fuel versioned
    | _ => return ()

/-- Reads a document's root after its start marker. -/
def content (fuel : Nat) : Reading Node := do
  match ← peek with
  | .version .. | .tagHandle .. | .documentStart | .documentEnd | .streamEnd => return absent
  | _ => node fuel true false

/-- Reads the document of a text: nothing, a bare node, or directives, a start marker and a node;
then nothing may follow but end markers. -/
def stream (fuel : Nat) : Reading (Option Node) := do
  match ← peek with
  | .streamEnd => return none
  | _ =>
    let root ←
      match ← peek with
      | .version .. | .tagHandle .. | .documentStart => do
        directives fuel false
        modify fun r => { r with handles := r.handles ++ defaultHandles }
        if (← peek) == .documentStart then skip else throw .unexpectedToken
        content fuel
      | _ => do
        modify fun r => { r with handles := defaultHandles }
        node fuel true false
    let rest := (← get).tokens.dropWhile (· == .documentEnd)
    if rest == [.streamEnd] then return some root else throw .severalDocuments

end Reading

mutual

/-- The number of events of a node. -/
def Node.events : Node → Nat
  | .alias _ => 1
  | .scalar .. => 1
  | .seq _ items => Node.itemEvents items + 2
  | .map _ entries => Node.entryEvents entries + 2

/-- The number of events of the items of a sequence. -/
def Node.itemEvents : List Node → Nat
  | [] => 0
  | n :: rest => n.events + Node.itemEvents rest

/-- The number of events of the entries of a mapping. -/
def Node.entryEvents : List (Node × Node) → Nat
  | [] => 0
  | (k, v) :: rest => k.events + v.events + Node.entryEvents rest

end

/-- The document of a text. An anchor's number means the node that began last under it. -/
def document (text : String) : Except Fault Document := do
  let ts ← tokens text
  let (root, r) ← (Reading.stream (4 * ts.length + 4)).run { tokens := ts }
  let anchors := r.anchored.mergeSort fun a b => b.order ≤ a.order
  return ⟨root, anchors.map fun a => (a.id, a.node), (root.map Node.events).getD 1⟩

end StandardsGate.Yaml
