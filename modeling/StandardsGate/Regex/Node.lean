import StandardsGate.Unicode.CodeSet

/-!
Regular expressions as trees.

A `Node` says what a pattern matches once its flags are worked into it: literals and classes are
sets of characters, anchors and word boundaries are `Look`s, and every repetition knows whether it
prefers more or fewer rounds.

Main definitions:

* `Regex.Look`, `Regex.Look.holds` — assertions on a position, decided by the two neighbouring
  characters;
* `Regex.Node`, `Regex.Node.repeated` — the trees, and repetitions without idle rounds;
* `Regex.Node.minLength?` — the least number of characters a match takes, `none` for a tree that
  matches nothing.
-/

namespace StandardsGate.Regex

/-- Assertions on a position of the text. The word boundaries come in a Unicode and an ASCII form,
told apart by their first argument. -/
inductive Look
  | textStart
  | textEnd
  | lineStart
  | lineEnd
  | crlfLineStart
  | crlfLineEnd
  | wordBoundary (unicode : Bool)
  | notWordBoundary (unicode : Bool)
  | wordStart (unicode : Bool)
  | wordEnd (unicode : Bool)
  | wordStartHalf (unicode : Bool)
  | wordEndHalf (unicode : Bool)
deriving DecidableEq, Repr

/-- ASCII letters, digits and the underscore. -/
def asciiWord : CodeSet := ⟨[(0x30, 0x39), (0x41, 0x5A), (0x5F, 0x5F), (0x61, 0x7A)]⟩

/-- Whether a neighbour of the position is a word character; beyond the text there is none. -/
def isWordAt (unicodeWord : CodeSet) (unicode : Bool) (c : Option Char) : Bool :=
  c.any fun c => if unicode then unicodeWord.contains c else asciiWord.contains c

/-- Whether an assertion holds between two neighbouring characters; `none` is the text's end. -/
def Look.holds (unicodeWord : CodeSet) (before after : Option Char) : Look → Bool
  | textStart => before.isNone
  | textEnd => after.isNone
  | lineStart => before.all (· == '\n')
  | lineEnd => after.all (· == '\n')
  | crlfLineStart => before.all (· == '\n') || (before == some '\r' && after != some '\n')
  | crlfLineEnd => after.all (· == '\r') || (after == some '\n' && before != some '\r')
  | wordBoundary u => isWordAt unicodeWord u before != isWordAt unicodeWord u after
  | notWordBoundary u => isWordAt unicodeWord u before == isWordAt unicodeWord u after
  | wordStart u => !isWordAt unicodeWord u before && isWordAt unicodeWord u after
  | wordEnd u => isWordAt unicodeWord u before && !isWordAt unicodeWord u after
  | wordStartHalf u => !isWordAt unicodeWord u before
  | wordEndHalf u => !isWordAt unicodeWord u after

/-- A regular expression. `alt` prefers its first branch; `rep` repeats its body `min` to `max`
times (`none`: any number), more rounds before fewer exactly when it is greedy. -/
inductive Node
  | empty
  | set (members : CodeSet)
  | look (l : Look)
  | seq (first second : Node)
  | alt (preferred other : Node)
  | rep (min : Nat) (max : Option Nat) (greedy : Bool) (body : Node)
deriving Repr, Inhabited

namespace Node

/-- The node that matches its parts one after another. -/
def seqs : List Node → Node
  | [] => empty
  | [n] => n
  | n :: rest => seq n (seqs rest)

/-- The node that tries its branches in order. -/
def alts : List Node → Node
  | [] => empty
  | [n] => n
  | n :: rest => alt n (alts rest)

/-- The least number of characters a match takes; `none` when nothing matches. -/
def minLength? : Node → Option Nat
  | empty => some 0
  | set s => if s.ranges.isEmpty then none else some 1
  | look _ => some 0
  | seq a b => do return (← a.minLength?) + (← b.minLength?)
  | alt a b =>
    match a.minLength?, b.minLength? with
    | some m, some n => some (min m n)
    | some m, none => some m
    | none, r => r
  | rep min _ _ body => if min = 0 then some 0 else (body.minLength?).map (min * ·)

/-- Whether a tree has no match but the empty one. -/
def isVoid : Node → Bool
  | empty | look _ => true
  | set _ => false
  | seq a b | alt a b => a.isVoid && b.isVoid
  | rep _ max _ body => max == some 0 || body.isVoid

/-- The repetition of a body. Of a body that takes no character, one round says as much as many. -/
def repeated (min : Nat) (max : Option Nat) (greedy : Bool) (body : Node) : Node :=
  if body.isVoid then rep (min.min 1) (some ((max.getD 1).min 1)) greedy body
  else rep min max greedy body

/-- Whether every match takes at least one character. -/
def consumes (n : Node) : Bool := n.minLength?.any (0 < ·)

end Node

end StandardsGate.Regex
