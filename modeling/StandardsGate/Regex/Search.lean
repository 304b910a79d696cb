import StandardsGate.Regex.Program
import Std.Data.HashSet

/-!
Where a program matches.

Of all matches that begin at a position, the preferred one is the first that the program reaches
when forks try their first target first. `Program.ends` works it out for every position of a text
at once, from the end of the text to its start: the preferred match from an instruction at one
position follows from the preferred matches one position later. So the work is bounded by the length
of the text times the size of the program, whatever the pattern.

Main definitions:

* `Regex.reach` — the instructions that an instruction leads to without taking a character, in
  order of preference;
* `Regex.Program.ends` — for every position, where the preferred match from there ends;
* `Regex.scan` — successive matches that do not overlap, each leftmost from the end of the last.
-/

namespace StandardsGate.Regex

/-- Follows forks and assertions from the instructions on a stack, first to last, visiting none
twice; answers the taking and accepting ones in the order they are met. The fuel bounds the number
of stack entries handled. -/
def reachFrom (code : Array Instr) (holds : Look → Bool) :
    Nat → List Nat → Std.HashSet Nat → List Nat → List Nat
  | 0, _, _, found => found.reverse
  | _ + 1, [], _, found => found.reverse
  | fuel + 1, pc :: stack, visited, found =>
    if visited.contains pc then reachFrom code holds fuel stack visited found
    else
      let visited := visited.insert pc
      match code.getD pc .accept with
      | .accept | .consume .. => reachFrom code holds fuel stack visited (pc :: found)
      | .assert l next =>
        let stack := if holds l then next :: stack else stack
        reachFrom code holds fuel stack visited found
      | .fork first second => reachFrom code holds fuel (first :: second :: stack) visited found

/-- The taking and accepting instructions that one leads to without taking a character, preferred
ones first. Every visit adds at most two stack entries, which gives the fuel. -/
def reach (code : Array Instr) (holds : Look → Bool) (pc : Nat) : List Nat :=
  reachFrom code holds (2 * code.size + 2) [pc] ∅ []

/-- The instructions at which a step of the search can begin: the program's start and whatever
follows a taken character. -/
def entries (p : Program) : List Nat :=
  let marked := p.code.foldl
    (fun (marks : Array Bool) i =>
      match i with
      | .consume _ next => marks.setIfInBounds next true
      | _ => marks)
    ((Array.replicate p.code.size false).setIfInBounds p.start true)
  (List.range p.code.size).filter fun pc => marked.getD pc false

/-- The assertions of a program, without repetition. -/
def looks (p : Program) : List Look :=
  (p.code.toList.filterMap fun i =>
    match i with
    | .assert l _ => some l
    | _ => none).eraseDups

/-- For every entry, what it leads to where exactly the given assertions hold. -/
def reachTable (p : Program) (entries : List Nat) (holding : List Look) : List (Nat × List Nat) :=
  entries.map fun pc => (pc, reach p.code holding.contains pc)

/-- What has been worked out about positions of one kind: which assertions hold there, and what
every entry then leads to. -/
abbrev ReachCache := List (List Look × List (Nat × List Nat))

/-- The state of the walk from the end of a text: what was worked out so far about kinds of
positions, the column of the position just handled (for each instruction the end of the preferred
match from there), and the ends for all positions handled, nearest first. -/
structure Walk where
  cache : ReachCache
  column : Array (Option Nat)
  ends : List (Option Nat)

/-- The end of the preferred match from an entry at position `pos`, where the next character is
`after` and `column` tells the ends one position later. -/
def preferredEnd (p : Program) (after : Option Char) (pos : Nat) (column : Array (Option Nat))
    (targets : List Nat) : Option Nat :=
  targets.findSome? fun pc =>
    match p.code.getD pc .accept with
    | .accept => some pos
    | .consume s next =>
      match column.getD next none, after with
      | some e, some c => if s.contains c then some e else none
      | _, _ => none
    | _ => none

/-- Handles one position, given its neighbouring characters. -/
def Walk.step (p : Program) (unicodeWord : CodeSet) (entries : List Nat) (looks : List Look)
    (w : Walk) (before after : Option Char) (pos : Nat) : Walk :=
  let holding := looks.filter (Look.holds unicodeWord before after)
  let (table, cache) := match w.cache.find? (fun e => e.1 == holding) with
    | some e => (e.2, w.cache)
    | none =>
      let table := reachTable p entries holding
      (table, (holding, table) :: w.cache)
  let column := table.foldl
    (fun col e => col.setIfInBounds e.1 (preferredEnd p after pos w.column e.2))
    (Array.replicate p.code.size none)
  ⟨cache, column, column.getD p.start none :: w.ends⟩

/-- Walks over a text from its end: `before` is the character in front of the rest, which begins at
position `pos`. -/
def walk (p : Program) (unicodeWord : CodeSet) (entries : List Nat) (looks : List Look)
    (before : Option Char) (pos : Nat) : List Char → Walk
  | [] => Walk.step p unicodeWord entries looks ⟨[], Array.replicate p.code.size none, []⟩
      before none pos
  | c :: rest =>
    (walk p unicodeWord entries looks (some c) (pos + 1) rest).step p unicodeWord entries looks
      before (some c) pos

/-- For every position of a text, the end included, where the preferred match from there ends. -/
def Program.ends (p : Program) (unicodeWord : CodeSet) (text : List Char) : List (Option Nat) :=
  (walk p unicodeWord (entries p) (looks p) none 0 text).ends

/-! ### Successive matches -/

/-- The first position from `pos` on at which a match begins, with the match's end. `ends` lists
the positions from `pos` on. -/
def firstMatch (pos : Nat) : List (Option Nat) → Option (Nat × Nat)
  | [] => none
  | some e :: _ => some (pos, e)
  | none :: rest => firstMatch (pos + 1) rest

/-- The next match after one that ended at `last`: leftmost from there, but not an empty one at
`last` itself. -/
def nextMatch (ends : List (Option Nat)) (pos : Nat) (last : Option Nat) : Option (Nat × Nat) :=
  match firstMatch pos (ends.drop pos) with
  | none => none
  | some (s, e) =>
    if s = e && last == some e then firstMatch (pos + 1) (ends.drop (pos + 1)) else some (s, e)

/-- Successive matches from `pos` on. A match moves on by its length, and an empty one is never
taken right after another match, so `fuel` rounds are enough when it exceeds twice the number of
positions left. -/
def scanFrom (ends : List (Option Nat)) : Nat → Nat → Option Nat → List (Nat × Nat)
  | 0, _, _ => []
  | fuel + 1, pos, last =>
    match nextMatch ends pos last with
    | none => []
    | some (s, e) => (s, e) :: scanFrom ends fuel e (some e)

/-- All matches of a text, given where the preferred match from each position ends. -/
def scan (ends : List (Option Nat)) : List (Nat × Nat) := scanFrom ends (2 * ends.length + 1) 0 none

end StandardsGate.Regex
