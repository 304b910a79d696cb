import StandardsGate.Regex.Escape

/-!
Bracketed character classes, such as `[a-z&&[^aeiou]]`.

A class is read with an explicit stack: an open bracket pushes the members collected so far, a set
operator pushes its left operand. Every step of the loop takes at least one character off the
pattern, which is why the loop ends.

Main definitions:

* `Regex.asciiClass?` — the named ASCII classes, as in `[[:alpha:]]`;
* `Regex.readClass` — reads a class from its opening bracket to its closing one.
-/

namespace StandardsGate.Regex

/-- The operators between operands of a class. -/
inductive SetOp
  | inter
  | diff
  | symmDiff
deriving DecidableEq

/-- What an operator makes of its operands. -/
def SetOp.apply : SetOp → CodeSet → CodeSet → CodeSet
  | inter, a, b => a.inter b
  | diff, a, b => a.diff b
  | symmDiff, a, b => a.symmDiff b

/-- The named ASCII classes. -/
def asciiClass? (name : String) : Option CodeSet :=
  match name with
  | "alnum" => some ⟨[(0x30, 0x39), (0x41, 0x5A), (0x61, 0x7A)]⟩
  | "alpha" => some ⟨[(0x41, 0x5A), (0x61, 0x7A)]⟩
  | "ascii" => some (.range 0 0x7F)
  | "blank" => some ⟨[(0x09, 0x09), (0x20, 0x20)]⟩
  | "cntrl" => some ⟨[(0x00, 0x1F), (0x7F, 0x7F)]⟩
  | "digit" => some (.range 0x30 0x39)
  | "graph" => some (.range 0x21 0x7E)
  | "lower" => some (.range 0x61 0x7A)
  | "print" => some (.range 0x20 0x7E)
  | "punct" => some ⟨[(0x21, 0x2F), (0x3A, 0x40), (0x5B, 0x60), (0x7B, 0x7E)]⟩
  | "space" => some ⟨[(0x09, 0x0D), (0x20, 0x20)]⟩
  | "upper" => some (.range 0x41 0x5A)
  | "word" => some asciiWord
  | "xdigit" => some ⟨[(0x30, 0x39), (0x41, 0x46), (0x61, 0x66)]⟩
  | _ => none

/-- Tries to read a named ASCII class after its `[`. -/
def readAsciiClass? (cs : List Char) : Option (CodeSet × Bool × List Char) := do
  let ':' :: rest := cs | none
  let (negated, rest) := match rest with
    | '^' :: rest => (true, rest)
    | _ => (false, rest)
  let name := rest.takeWhile (· != ':')
  let ':' :: ']' :: rest := rest.drop name.length | none
  return (← asciiClass? (String.ofList name), negated, rest)

/-- Members collected between two brackets or operators: the set, how many items it was written
with, and how deep classes are nested in it. -/
structure Members where
  set : CodeSet := .empty
  items : Nat := 0
  depth : Nat := 0

/-- Members with one more item. -/
def Members.add (m : Members) (s : CodeSet) (depth : Nat) : Members :=
  ⟨m.set.union s, m.items + 1, max m.depth depth⟩

/-- How deep the members are nested once they form an operand. -/
def Members.nesting (m : Members) : Nat := if m.items < 2 then m.depth else m.depth + 1

/-- What a class in progress waits for: the bracket that opened it, with the members before it, or
the right operand of an operator. -/
inductive ClassFrame
  | opened (outer : Members) (negated : Bool)
  | operator (op : SetOp) (left : CodeSet) (depth : Nat)

/-- Refuses a set with members beyond ASCII where the flags allow bytes only. -/
def checkBytes (f : Flags) (s : CodeSet) : Except Fault CodeSet :=
  if f.unicode || s.isBelow 0x80 then .ok s else .error .invalidUtf8

/-- Closes an operand under case where the flags ask for it. -/
def operand (f : Flags) (s : CodeSet) : CodeSet := foldAndNegate f false s

/-- Applies the operator that waits on top of the stack, if one does, to its right operand. -/
def applyPending (f : Flags) (right : CodeSet) (depth : Nat) :
    List ClassFrame → CodeSet × Nat × List ClassFrame
  | .operator op left d :: stack =>
    (op.apply (operand f left) (operand f right), max d depth + 1, stack)
  | stack => (right, depth, stack)

/-- The number that a single character contributes to a class. -/
def memberCode (f : Flags) (c : Char) (byte : Bool) : Except Fault Nat :=
  if f.unicode || byte || c.toNat ≤ 0x7F then .ok c.toNat else .error .unicodeRequired

/-- Reads one item of a class: a character or an escape. -/
def readItem (f : Flags) (cs : List Char) : Except Fault (Escape × List Char) :=
  match cs with
  | [] => .error .classUnclosed
  | '\\' :: rest => readEscape f rest
  | c :: rest => .ok (.char c false, rest)

/-- The character after the current one, blanks and comment signs passed over in verbose
patterns. -/
def peekSpace (verbose : Bool) (rest : List Char) : Option Char :=
  if !verbose then rest.head?
  else match rest.dropWhile isBlank with
    | '#' :: after => (after.dropWhile isBlank).head?.or rest.head?
    | found => found.head?.or rest.head?

/-- Reads one item or a range of characters. -/
def readRange (f : Flags) (cs : List Char) : Except Fault (CodeSet × List Char) := do
  let (first, rest) ← readItem f cs
  let rest := skipSpace f.verbose rest
  let single : Except Fault (CodeSet × List Char) :=
    match first with
    | .char c byte => do return (.singleton (← memberCode f c byte), rest)
    | .set s => return (s, rest)
    | .look _ => .error .classItemInvalid
  match rest with
  | [] => .error .classUnclosed
  | '-' :: after =>
    let next := peekSpace f.verbose after
    if next == some ']' || next == some '-' then single
    else match skipSpace f.verbose after with
      | [] => .error .classUnclosed
      | after =>
        let (second, rest) ← readItem f after
        match first, second with
        | .char a aByte, .char b bByte =>
          if b < a then .error .classRangeInvalid
          else return (.range (← memberCode f a aByte) (← memberCode f b bByte), rest)
        | _, _ => .error .classRangeInvalid
  | _ => single

/-- Reads the dashes that stand literally at the start of a class. -/
def readDashes (verbose : Bool) (m : Members) (cs : List Char) : Members × List Char :=
  match cs with
  | '-' :: rest => readDashes verbose (m.add (.singleton 0x2D) 0) (skipSpace verbose rest)
  | cs => (m, cs)
termination_by cs.length
decreasing_by
  simp only [List.length_cons]
  exact Nat.lt_succ_of_le (length_skipSpace_le verbose rest)

/-- Reads the start of a class after its `[`: a negation sign, leading dashes, and a leading closing
bracket that stands for itself. -/
def readOpening (f : Flags) (cs : List Char) : Bool × Members × List Char :=
  let cs := skipSpace f.verbose cs
  let (negated, cs) := match cs with
    | '^' :: rest => (true, skipSpace f.verbose rest)
    | _ => (false, cs)
  let (m, cs) := readDashes f.verbose {} cs
  match m.items, cs with
  | 0, ']' :: rest => (negated, m.add (.singleton 0x5D) 0, skipSpace f.verbose rest)
  | _, _ => (negated, m, cs)

/-- A class that was read: its members, how deep it nests, and the rest of the pattern. -/
structure ReadClass where
  set : CodeSet
  depth : Nat
  rest : List Char

/-- A step of the loop: the class is finished, or goes on with a new stack, members and rest. -/
abbrev ClassStep := ReadClass ⊕ (List ClassFrame × Members × List Char)

/-- Closes the innermost bracket. -/
def closeBracket (f : Flags) (stack : List ClassFrame) (m : Members) (rest : List Char) :
    Except Fault ClassStep := do
  let (s, depth, stack) := applyPending f m.set m.nesting stack
  match stack with
  | .opened outer negated :: stack =>
    let s ← checkBytes f (foldAndNegate f negated s)
    if !f.unicode && negated then .error .invalidUtf8
    if stack.isEmpty then return .inl ⟨s, depth + 1, rest⟩
    else return .inr (stack, outer.add s (depth + 1), rest)
  | _ => .error .classUnclosed

/-- Pushes the left operand of an operator. -/
def pushOperator (f : Flags) (op : SetOp) (stack : List ClassFrame) (m : Members)
    (rest : List Char) : ClassStep :=
  let (s, depth, stack) := applyPending f m.set m.nesting stack
  .inr (.operator op s depth :: stack, {}, rest)

/-- One step of reading a class: one bracket, operator, item or range. -/
def stepClass (f : Flags) (stack : List ClassFrame) (m : Members) (cs : List Char) :
    Except Fault ClassStep := do
  match cs with
  | [] => .error .classUnclosed
  | '[' :: rest =>
    match if stack.isEmpty then none else readAsciiClass? rest with
    | some (s, negated, rest) =>
      if !f.unicode && negated then .error .invalidUtf8
      return .inr (stack, m.add (foldAndNegate f negated s) 0, rest)
    | none =>
      let (negated, inner, rest) := readOpening f rest
      return .inr (.opened m negated :: stack, inner, rest)
  | ']' :: rest => closeBracket f stack m rest
  | '&' :: '&' :: rest => return pushOperator f .inter stack m rest
  | '-' :: '-' :: rest => return pushOperator f .diff stack m rest
  | '~' :: '~' :: rest => return pushOperator f .symmDiff stack m rest
  | cs =>
    let (s, rest) ← readRange f cs
    return .inr (stack, m.add s 0, rest)

/-- Reads a class: steps are made while they take characters off the pattern. -/
def readClassFrom (f : Flags) (stack : List ClassFrame) (m : Members) (cs : List Char) :
    Except Fault ReadClass := do
  match ← stepClass f stack m (skipSpace f.verbose cs) with
  | .inl c => return c
  | .inr (stack, m, rest) =>
    if rest.length < cs.length then readClassFrom f stack m rest else .error .classUnclosed
termination_by cs.length

/-- Reads a class whose opening bracket is the first character. -/
def readClass (f : Flags) (cs : List Char) : Except Fault ReadClass := readClassFrom f [] {} cs

end StandardsGate.Regex
