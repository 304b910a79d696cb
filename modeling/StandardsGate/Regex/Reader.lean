import StandardsGate.Regex.Bracket
import StandardsGate.Text.Decimal

/-!
From a written pattern to its tree.

The reader walks the pattern once with an explicit stack of open groups. A flag setting such as
`(?i)` holds from its place to the end of the group around it, across alternatives too, so the
flags in force are part of the reader's state and every literal, class and repetition is built with
them. Each step takes at least one character off the pattern, which is why the loop ends.

Main definitions:

* `Regex.ReaderState` — the open groups, alternatives and items;
* `Regex.readPattern` — the tree of a pattern, or what is wrong with it.
-/

namespace StandardsGate.Regex

/-- A part of the pattern: its tree, how deep groups and repetitions nest in it, and whether a
repetition may follow it (a flag setting stands alone). -/
structure Item where
  node : Node
  depth : Nat := 0
  repeatable : Bool := true

/-- What was read of a group before the part in progress: the flags in force before the group, its
finished alternatives and the items of the current one, both last first. -/
structure Frame where
  flags : Flags
  branches : List Item
  items : List Item

/-- The reader's state: the frame that is being filled, the frames around it, and the group names
in use. The flags of the current frame are those now in force. -/
structure ReaderState where
  current : Frame
  outer : List Frame
  names : List (List Char)

/-- How deep a pattern may nest. -/
def nestLimit : Nat := 250

/-- The largest number a counted repetition can state. -/
def countLimit : Nat := 0xFFFFFFFF

/-- Joins the items of one alternative. -/
def joinItems (items : List Item) : Item :=
  match items with
  | [] => ⟨.empty, 0, true⟩
  | [i] => i
  | _ =>
    ⟨.seqs (items.reverse.map Item.node), (items.map Item.depth).foldl max 0 + 1, true⟩

/-- The finished content of a frame. -/
def Frame.close (fr : Frame) : Item :=
  match fr.branches with
  | [] => joinItems fr.items
  | _ =>
    let branches := joinItems fr.items :: fr.branches
    ⟨.alts (branches.reverse.map Item.node), (branches.map Item.depth).foldl max 0 + 1, true⟩

namespace ReaderState

/-- The flags in force. -/
def flags (st : ReaderState) : Flags := st.current.flags

/-- Appends an item to the current alternative. -/
def push (st : ReaderState) (i : Item) : ReaderState :=
  { st with current := { st.current with items := i :: st.current.items } }

/-- Puts other flags in force. -/
def withFlags (st : ReaderState) (f : Flags) : ReaderState :=
  { st with current := { st.current with flags := f } }

/-- Begins the next alternative. -/
def nextBranch (st : ReaderState) : ReaderState :=
  { st with current :=
    { st.current with branches := joinItems st.current.items :: st.current.branches, items := [] } }

/-- Opens a group whose body is read with the given flags. -/
def openGroup (st : ReaderState) (f : Flags) : ReaderState :=
  { st with current := ⟨f, [], []⟩, outer := st.current :: st.outer }

/-- Closes the innermost group; the flags of the frame around it are in force again. -/
def closeGroup (st : ReaderState) : Except Fault ReaderState :=
  match st.outer with
  | [] => .error .groupUnopened
  | fr :: outer =>
    let body := st.current.close
    .ok { st with
      current := { fr with items := ⟨body.node, body.depth + 1, true⟩ :: fr.items }
      outer := outer }

/-- Replaces the last item by its repetition. -/
def repeatLast (st : ReaderState) (min : Nat) (max : Option Nat) (lazyMark : Bool) :
    Except Fault ReaderState :=
  match st.current.items with
  | [] => .error .repetitionMissing
  | i :: items =>
    if !i.repeatable then .error .repetitionMissing
    else
      let greedy := lazyMark == st.flags.swapGreed
      .ok { st with current :=
        { st.current with items := ⟨.repeated min max greedy i.node, i.depth + 1, true⟩ :: items } }

end ReaderState

/-! ### Literals and assertions -/

/-- The node of a literal character: with either case where the flags ignore it. -/
def literal (f : Flags) (c : Char) : Node :=
  .set (foldAndNegate f false (.singleton c.toNat))

/-- The node of the dot. -/
def dot (f : Flags) : Except Fault Node :=
  if !f.unicode then .error .invalidUtf8
  else if f.dotAll then .ok (.set .all)
  else if f.crlf then .ok (.set (CodeSet.complement ⟨[(0x0A, 0x0A), (0x0D, 0x0D)]⟩))
  else .ok (.set (CodeSet.complement (.singleton 0x0A)))

/-- The assertion of a caret. -/
def caret (f : Flags) : Look :=
  if !f.multiLine then .textStart else if f.crlf then .crlfLineStart else .lineStart

/-- The assertion of a dollar sign. -/
def dollar (f : Flags) : Look :=
  if !f.multiLine then .textEnd else if f.crlf then .crlfLineEnd else .lineEnd

/-- The node of an escape outside a class. A byte beyond ASCII is no text of its own. -/
def escapeNode (f : Flags) : Escape → Except Fault Node
  | .char c byte =>
    if !f.unicode && byte && 0x80 ≤ c.toNat then .error .invalidUtf8 else .ok (literal f c)
  | .set s => .ok (.set s)
  | .look l => .ok (.look l)

/-! ### Groups -/

/-- Whether a character may stand in a group name. -/
def isNameChar (first : Bool) (c : Char) : Bool :=
  c == '_' || Unicode.alphabetic.contains c ||
    (!first && (c == '.' || c == '[' || c == ']' ||
      (Unicode.categories [.decimalNumber, .letterNumber, .otherNumber]).contains c))

/-- Reads a group name up to its closing angle bracket. -/
def readGroupName (acc : List Char) : List Char → Except Fault (List Char × List Char)
  | [] => .error .groupNameInvalid
  | c :: rest =>
    if c = '>' then if acc.isEmpty then .error .groupNameInvalid else .ok (acc.reverse, rest)
    else if isNameChar acc.isEmpty c then readGroupName (c :: acc) rest
    else .error .groupNameInvalid

/-- Opens a group that has a name. -/
def openNamed (st : ReaderState) (cs : List Char) : Except Fault (ReaderState × List Char) := do
  let (name, rest) ← readGroupName [] cs
  if st.names.contains name then .error .groupNameRepeated
  return ({ st.openGroup st.flags with names := name :: st.names }, rest)

/-- Reads what follows an opening parenthesis. -/
def readGroup (st : ReaderState) (cs : List Char) : Except Fault (ReaderState × List Char) := do
  match skipSpace st.flags.verbose cs with
  | '?' :: '=' :: _ | '?' :: '!' :: _ | '?' :: '<' :: '=' :: _ | '?' :: '<' :: '!' :: _ =>
    .error .lookAround
  | '?' :: 'P' :: '<' :: rest => openNamed st rest
  | '?' :: '<' :: rest => openNamed st rest
  | '?' :: rest =>
    let run ← readFlags true false [] st.flags rest
    if run.opensGroup then return (st.openGroup run.flags, run.rest)
    else if run.isEmpty then .error .flagsMissing
    else return ((st.withFlags run.flags).push ⟨.empty, 0, false⟩, run.rest)
  | rest => return (st.openGroup st.flags, rest)

/-! ### Repetitions -/

/-- Reads the digits of a count. -/
def readDigits (verbose : Bool) (acc : List Char) (cs : List Char) : List Char × List Char :=
  match cs with
  | [] => (acc.reverse, [])
  | c :: rest =>
    if verbose && isBlank c then readDigits verbose acc rest
    else if c.isDigit then readDigits verbose (c :: acc) rest
    else (acc.reverse, c :: rest)

/-- Reads a count with blanks around it; `none` when there are no digits. -/
def readCount (verbose : Bool) (cs : List Char) : Except Fault (Option Nat × List Char) :=
  let (digits, rest) := readDigits verbose [] (cs.dropWhile isBlank)
  let rest := rest.dropWhile isBlank
  let n := Text.decimalValue digits
  if digits.isEmpty then .ok (none, rest)
  else if n ≤ countLimit then .ok (some n, rest) else .error .repetitionCount

/-- Takes the question mark that makes a repetition lazy. -/
def takeLazy : List Char → Bool × List Char
  | '?' :: rest => (true, rest)
  | rest => (false, rest)

/-- Reads a counted repetition after its opening brace: the least and the largest count. -/
def readRepetition (verbose : Bool) (cs : List Char) :
    Except Fault (Nat × Option Nat × List Char) := do
  let (low, rest) ← readCount verbose (skipSpace verbose cs)
  let (low, high, rest) ← match rest with
    | ',' :: rest => do
      let rest := skipSpace verbose rest
      match rest, low with
      | _, none => .error .repetitionCount
      | '}' :: _, some low => .ok (low, none, rest)
      | _, some low => do
        let (high, rest) ← readCount verbose rest
        match high with
        | none => .error .repetitionCount
        | some high => .ok (low, some high, rest)
    | _ => match low with
      | none => .error .repetitionCount
      | some low => .ok (low, some low, rest)
  match rest with
  | '}' :: rest =>
    if high.any (· < low) then .error .repetitionOrder else return (low, high, rest)
  | _ => .error .repetitionUnclosed

/-! ### The loop -/

/-- One step of reading: one group sign, class, repetition, assertion or literal. -/
def stepPattern (st : ReaderState) (c : Char) (rest : List Char) :
    Except Fault (ReaderState × List Char) := do
  let f := st.flags
  match c with
  | '(' => readGroup st rest
  | ')' => return (← st.closeGroup, rest)
  | '|' => return (st.nextBranch, rest)
  | '[' =>
    let cls ← readClass f (c :: rest)
    return (st.push ⟨.set cls.set, cls.depth, true⟩, cls.rest)
  | '?' => let (mark, rest) := takeLazy rest; return (← st.repeatLast 0 (some 1) mark, rest)
  | '*' => let (mark, rest) := takeLazy rest; return (← st.repeatLast 0 none mark, rest)
  | '+' => let (mark, rest) := takeLazy rest; return (← st.repeatLast 1 none mark, rest)
  | '{' =>
    let (low, high, rest) ← readRepetition f.verbose rest
    let (mark, rest) := takeLazy (skipSpace f.verbose rest)
    return (← st.repeatLast low high mark, rest)
  | '\\' =>
    let (e, rest) ← readEscape f rest
    return (st.push ⟨← escapeNode f e, 0, true⟩, rest)
  | '.' => return (st.push ⟨← dot f, 0, true⟩, rest)
  | '^' => return (st.push ⟨.look (caret f), 0, true⟩, rest)
  | '$' => return (st.push ⟨.look (dollar f), 0, true⟩, rest)
  | _ => return (st.push ⟨literal f c, 0, true⟩, rest)

/-- The finished tree, once the whole pattern is read. -/
def ReaderState.finish (st : ReaderState) : Except Fault Node :=
  if !st.outer.isEmpty then .error .groupUnclosed
  else
    let body := st.current.close
    if nestLimit < body.depth then .error .nestedTooDeep else .ok body.node

/-- Reads a pattern: steps are made while they take characters off it. -/
def readFrom (st : ReaderState) (cs : List Char) : Except Fault Node := do
  match skipSpace st.flags.verbose cs with
  | [] => st.finish
  | c :: rest =>
    let (st, rest) ← stepPattern st c rest
    if rest.length < cs.length then readFrom st rest else .error .escapeUnfinished
termination_by cs.length

/-- The tree of a written pattern. -/
def readPattern (pattern : String) : Except Fault Node :=
  readFrom ⟨⟨{}, [], []⟩, [], []⟩ pattern.toList

end StandardsGate.Regex
