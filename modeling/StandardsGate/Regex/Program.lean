import StandardsGate.Regex.Node

/-!
Trees compiled to programs.

A program is an array of instructions that refer to each other by index. Compilation goes from the
end: `emit n next` appends the instructions of the tree `n` followed by a jump to `next`, and
answers where they begin. Alternatives are `fork`s, which try their first target before the second;
this order alone decides which of several matches is preferred.

Main definitions:

* `Regex.Instr`, `Regex.Program` — instructions and programs;
* `Regex.Program.ofNode` — the program of a tree;
* `Regex.Node.weight` — how much memory the program would take, worked out without building it.
-/

namespace StandardsGate.Regex

/-- One instruction of a program. -/
inductive Instr
  /-- The match ends here. -/
  | accept
  /-- Takes a character of the set, then goes on. -/
  | consume (s : CodeSet) (next : Nat)
  /-- Goes on where the assertion holds. -/
  | assert (l : Look) (next : Nat)
  /-- Tries the first target, then the second. -/
  | fork (first second : Nat)
deriving Repr, Inhabited

/-- A program: its instructions and where it begins. -/
structure Program where
  code : Array Instr
  start : Nat
deriving Repr

/-- A fork that prefers its body if greedy, the way out otherwise. -/
def forkBy (greedy : Bool) (body out : Nat) : Instr :=
  if greedy then .fork body out else .fork out body

/-- Emits a loop: a fork that goes back to the body, which `emitBody` appends for a given
continuation. Answers the body's start and the fork's index. -/
def emitLoop (greedy : Bool) (emitBody : Nat → Array Instr → Nat × Array Instr) (next : Nat)
    (code : Array Instr) : Nat × Nat × Array Instr :=
  let fork := code.size
  let (body, code) := emitBody fork (code.push .accept)
  (body, fork, code.setIfInBounds fork (forkBy greedy body next))

/-- Emits `n` copies of a body one after another. -/
def emitCopies (emitBody : Nat → Array Instr → Nat × Array Instr) :
    Nat → Nat → Array Instr → Nat × Array Instr
  | 0, next, code => (next, code)
  | n + 1, next, code =>
    let (start, code) := emitBody next code
    emitCopies emitBody n start code

/-- Emits up to `n` optional copies of a body, each of which may be followed by the next one only;
`out` is where all of them leave. -/
def emitOptional (greedy : Bool) (emitBody : Nat → Array Instr → Nat × Array Instr) (out : Nat) :
    Nat → Nat → Array Instr → Nat × Array Instr
  | 0, next, code => (next, code)
  | n + 1, next, code =>
    let (body, code) := emitBody next code
    emitOptional greedy emitBody out n code.size (code.push (forkBy greedy body out))

/-- Appends the instructions of a tree that continues at `next`; answers where they begin. -/
def emit : Node → Nat → Array Instr → Nat × Array Instr
  | .empty, next, code => (next, code)
  | .set s, next, code => (code.size, code.push (.consume s next))
  | .look l, next, code => (code.size, code.push (.assert l next))
  | .seq a b, next, code =>
    let (mid, code) := emit b next code
    emit a mid code
  | .alt a b, next, code =>
    let (second, code) := emit b next code
    let (first, code) := emit a next code
    (code.size, code.push (.fork first second))
  | .rep min none greedy body, next, code =>
    let (start, fork, code) := emitLoop greedy (emit body) next code
    match min with
    | 0 =>
      if body.consumes then (fork, code)
      else (code.size, code.push (forkBy greedy start next))
    | n + 1 => emitCopies (emit body) n start code
  | .rep min (some max) greedy body, next, code =>
    let (start, code) := emitOptional greedy (emit body) next (max - min) next code
    emitCopies (emit body) min start code

/-- The program of a tree. -/
def Program.ofNode (n : Node) : Program :=
  let (start, code) := emit n 0 #[.accept]
  ⟨code, start⟩

/-! ### Weight -/

/-- The memory that an instruction takes, in bytes. -/
def instrWeight : Nat := 32

/-- The number of bytes that encode a code point. -/
def encodedLength (n : Nat) : Nat :=
  if n < 0x80 then 1 else if n < 0x800 then 2 else if n < 0x10000 then 3 else 4

/-- The memory for a set of characters, in bytes: one instruction for a set within ASCII, one per
byte of a single other character, and about two for every range of a larger set. -/
def setWeight (s : CodeSet) : Nat :=
  if s.isBelow 0x80 then instrWeight + 8 * s.ranges.length
  else match s.ranges with
    | [(lo, hi)] => instrWeight * encodedLength hi * (if lo = hi then 1 else 3)
    | rs => instrWeight * 2 * rs.length

/-- The memory for the program of a tree, in bytes. -/
def Node.weight : Node → Nat
  | empty => 0
  | set s => setWeight s
  | look _ => instrWeight
  | seq a b => a.weight + b.weight
  | alt a b => a.weight + b.weight + instrWeight
  | rep min none _ body => (max min 1) * body.weight + 2 * instrWeight
  | rep min (some max) _ body => max * body.weight + (max - min) * instrWeight

/-- The memory that a program may take, in bytes. -/
def weightLimit : Nat := 10485760

end StandardsGate.Regex
