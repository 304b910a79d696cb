/-!
Shell patterns.

Main definitions:

* `Shell.Mark` — the parts of a pattern;
* `Shell.marksOf` — the parts of a pattern's characters, of which quoted ones stand for themselves;
* `Shell.matchesAll` — whether a pattern matches the whole of a text;
* `Shell.cutFront`, `Shell.cutBack` — a text without what a pattern matches at one end.
-/

namespace StandardsGate.Shell

/-- A part of a pattern. -/
inductive Mark
  | one (c : Char)
  | anyOne
  | anyRun
  | oneOf (negated : Bool) (ranges : List (Char × Char))
deriving Repr, Inhabited

/-- A character of a pattern, and whether it is quoted. -/
abbrev PatternChar := Char × Bool

/-- The ranges of a set's characters. -/
def rangesOf : List PatternChar → List (Char × Char)
  | (a, _) :: ('-', false) :: (b, _) :: rest => (a, b) :: rangesOf rest
  | (a, _) :: rest => (a, a) :: rangesOf rest
  | [] => []

/-- A set behind its opening bracket: whether it is negated, its ranges, and what follows it;
`none` if it is not closed. -/
def readSet? (rest : List PatternChar) : Option (Bool × List (Char × Char) × List PatternChar) :=
  let negated := rest.head? == some ('!', false) || rest.head? == some ('^', false)
  let inner := if negated then rest.drop 1 else rest
  let body := inner.take 1 ++ (inner.drop 1).takeWhile (· != (']', false))
  match inner.drop body.length with
  | [] => none
  | _ :: after => some (negated, rangesOf body, after)

/-- The parts of a pattern. -/
def marksOf (cs : List PatternChar) : List Mark :=
  match cs with
  | [] => []
  | (c, quoted) :: rest =>
    if quoted then .one c :: marksOf rest
    else if c = '*' then .anyRun :: marksOf rest
    else if c = '?' then .anyOne :: marksOf rest
    else if c = '[' then
      match readSet? rest with
      | some (negated, ranges, after) =>
        if after.length < rest.length then .oneOf negated ranges :: marksOf after else []
      | none => .one c :: marksOf rest
    else .one c :: marksOf rest
termination_by cs.length

/-- Whether one character is in a set. -/
def inRanges (ranges : List (Char × Char)) (c : Char) : Bool :=
  ranges.any fun r => r.1 ≤ c && c ≤ r.2

/-- The ends of a text, the longest first. -/
def endsOf : List Char → List (List Char)
  | [] => [[]]
  | c :: rest => (c :: rest) :: endsOf rest

/-- Whether a pattern matches the whole of a text. -/
def matchesAll : List Mark → List Char → Bool
  | [], t => t.isEmpty
  | .anyRun :: p, t => (endsOf t).any (matchesAll p)
  | .anyOne :: p, _ :: t => matchesAll p t
  | .one c :: p, d :: t => c == d && matchesAll p t
  | .oneOf negated ranges :: p, d :: t => inRanges ranges d != negated && matchesAll p t
  | _, [] => false

/-- The lengths at which a text can be cut, in the order of preference. -/
def cutLengths (longest : Bool) (n : Nat) : List Nat :=
  let lengths := List.range (n + 1)
  if longest then lengths.reverse else lengths

/-- A text without what a pattern matches in front. -/
def cutFront (longest : Bool) (p : List Mark) (t : List Char) : List Char :=
  match (cutLengths longest t.length).find? fun n => matchesAll p (t.take n) with
  | some n => t.drop n
  | none => t

/-- A text without what a pattern matches at the end. -/
def cutBack (longest : Bool) (p : List Mark) (t : List Char) : List Char :=
  match (cutLengths longest t.length).find? fun n => matchesAll p (t.drop (t.length - n)) with
  | some n => t.take (t.length - n)
  | none => t

end StandardsGate.Shell
