import StandardsGate.Glob.Part

/-!
Reading glob patterns.

Two stars make a recursive part where they fill a component of the path, and count as two plain
stars elsewhere. Braces nest.

Main definitions:

* `Glob.Fault`, `Glob.Fault.message` — what can be wrong with a pattern;
* `Glob.parse` — the parts of a pattern.
-/

namespace StandardsGate.Glob

/-- The reasons for which a text is no glob pattern. -/
inductive Fault
  | unclosedClass
  | invalidRange (low high : Char)
  | unopenedAlternatives
  | unclosedAlternatives
  | danglingEscape
deriving DecidableEq, Repr

/-- The wording of a fault. -/
def Fault.reason : Fault → String
  | unclosedClass => "unclosed character class; missing ']'"
  | invalidRange low high =>
    "invalid range; '" ++ low.toString ++ "' > '" ++ high.toString ++ "'"
  | unopenedAlternatives =>
    "unopened alternate group; missing '\x7b' (maybe escape '\x7d' with '[\x7d]'?)"
  | unclosedAlternatives =>
    "unclosed alternate group; missing '\x7d' (maybe escape '\x7b' with '[\x7b]'?)"
  | danglingEscape => "dangling '\\'"

/-- The wording of a fault, with the pattern that has it. -/
def Fault.message (pattern : String) (f : Fault) : String :=
  "error parsing glob '" ++ pattern ++ "': " ++ f.reason

/-! ### Classes -/

/-- The ranges of a class being read: the finished ones, last first, and whether a dash after the
last one waits for its upper end. -/
structure ClassText where
  ranges : List (Char × Char) := []
  open? : Bool := false

/-- Adds a character: as a range of its own, or as the upper end of the last one. -/
def ClassText.add (t : ClassText) (c : Char) : Except Fault ClassText :=
  match t.open?, t.ranges with
  | true, (low, _) :: rest =>
    if c < low then .error (.invalidRange low c) else .ok ⟨(low, c) :: rest, false⟩
  | _, ranges => .ok ⟨(c, c) :: ranges, false⟩

/-- Reads a class after its opening bracket and negation sign. The first character stands for
itself even if it is a bracket or a dash, and so does a dash before the closing bracket. -/
def readRanges (first : Bool) (t : ClassText) :
    List Char → Except Fault (List (Char × Char) × List Char)
  | [] => .error .unclosedClass
  | c :: rest =>
    if c = ']' && !first then
      let ranges := if t.open? then ('-', '-') :: t.ranges else t.ranges
      .ok (ranges.reverse, rest)
    else if c = '-' && !first && !t.open? then readRanges false { t with open? := true } rest
    else
      match t.add c with
      | .error e => .error e
      | .ok t => readRanges false t rest

theorem length_readRanges {first : Bool} {t : ClassText} {cs : List Char}
    {ranges : List (Char × Char)} {rest : List Char}
    (h : readRanges first t cs = .ok (ranges, rest)) : rest.length < cs.length := by
  induction cs generalizing first t with
  | nil => simp [readRanges] at h
  | cons c cs ih =>
    unfold readRanges at h
    split at h
    · simp only [Except.ok.injEq, Prod.mk.injEq] at h
      simp [h.2]
    · split at h
      · have := ih h
        simp only [List.length_cons]; omega
      · split at h
        · simp at h
        · have := ih h
          simp only [List.length_cons]; omega

/-- Reads a class after its opening bracket. -/
def readClass (cs : List Char) : Except Fault (Part × List Char) := do
  match cs with
  | '!' :: rest | '^' :: rest =>
    let (ranges, rest) ← readRanges true {} rest
    return (.oneOf true ranges, rest)
  | _ =>
    let (ranges, rest) ← readRanges true {} cs
    return (.oneOf false ranges, rest)

theorem length_readClass {cs : List Char} {p : Part} {rest : List Char}
    (h : readClass cs = .ok (p, rest)) : rest.length < cs.length := by
  have hread : ∀ {cs : List Char} {negated : Bool},
      (do let (ranges, rest) ← readRanges true {} cs; return (Part.oneOf negated ranges, rest)) =
        Except.ok (ε := Fault) (p, rest) → rest.length < cs.length := by
    intro cs negated h
    cases hranges : readRanges true {} cs with
    | error e => rw [hranges] at h; cases h
    | ok found =>
        rw [hranges] at h
        cases h
        exact length_readRanges hranges
  unfold readClass at h
  split at h
  · exact Nat.lt_succ_of_lt (hread h)
  · exact Nat.lt_succ_of_lt (hread h)
  · exact hread h

/-! ### Patterns -/

/-- The reader's state: the parts of the branch being read, last first, the finished branches of the
same braces, last first, and what was being read around each open brace. -/
structure ReaderState where
  parts : List Part := []
  branches : List (List Part) := []
  outer : List (List Part × List (List Part)) := []

namespace ReaderState

/-- Appends a part. -/
def push (st : ReaderState) (p : Part) : ReaderState := { st with parts := p :: st.parts }

/-- Whether some braces are open. -/
def inBraces (st : ReaderState) : Bool := !st.outer.isEmpty

/-- Opens braces. -/
def openBraces (st : ReaderState) : ReaderState :=
  { parts := [], branches := [], outer := (st.parts, st.branches) :: st.outer }

/-- Begins the next branch. -/
def nextBranch (st : ReaderState) : ReaderState :=
  { st with parts := [], branches := st.parts.reverse :: st.branches }

/-- Closes braces. Branches that stand for no text are left out. -/
def closeBraces (st : ReaderState) : Except Fault ReaderState :=
  match st.outer with
  | [] => .error .unopenedAlternatives
  | (parts, branches) :: outer =>
    let inner := (st.parts.reverse :: st.branches).reverse.filter fun b => !isVoid b
    let part := if inner.isEmpty then Part.alternatives [[]] else .alternatives inner
    .ok { parts := part :: parts, branches, outer }

/-- Replaces the slash before `**` by a recursive part, except that one at the start or the end of
the branch stays what it was. -/
def recur (st : ReaderState) (p : Part) : ReaderState :=
  match st.parts with
  | .anyDirs :: _ | .subtree :: _ => st
  | _ :: rest => { st with parts := p :: rest }
  | [] => st

end ReaderState

/-- Reads `**`, both stars being read; `before` is the character in front of them. -/
def readStars (st : ReaderState) (before : Option Char) (rest : List Char) :
    ReaderState × List Char :=
  let plain := (st.push .star).push .star
  if st.parts.isEmpty then
    match rest with
    | [] => (st.push .anyDirs, [])
    | '/' :: after => (st.push .anyDirs, after)
    | _ => (plain, rest)
  else if before != some '/' then (plain, rest)
  else match rest with
    | [] => (st.recur .subtree, [])
    | '/' :: after => (st.recur .between, after)
    | c :: _ =>
      if (c == ',' || c == '}') && st.inBraces then (st.recur .subtree, rest) else (plain, rest)

theorem length_readStars_le (st : ReaderState) (before : Option Char) (rest : List Char) :
    (readStars st before rest).2.length ≤ rest.length := by
  unfold readStars
  dsimp only
  repeat' split
  all_goals simp

/-- Reads a pattern; `before` is the character in front of the rest. -/
def readFrom (st : ReaderState) (before : Option Char) (cs : List Char) :
    Except Fault (List Part) := do
  match cs with
  | [] => if st.inBraces then .error .unclosedAlternatives else return st.parts.reverse
  | '?' :: rest => readFrom (st.push .any) (some '?') rest
  | '*' :: '*' :: rest =>
    let (st, after) := readStars st before rest
    let before := if after.length < rest.length then some '/' else some '*'
    if after.length ≤ rest.length then readFrom st before after else return []
  | '*' :: rest => readFrom (st.push .star) (some '*') rest
  | '[' :: rest =>
    match readClass rest with
    | .error e => .error e
    | .ok (p, after) =>
      if after.length < rest.length then readFrom (st.push p) (some ']') after else return []
  | '{' :: rest => readFrom st.openBraces (some '{') rest
  | '}' :: rest => readFrom (← st.closeBraces) (some '}') rest
  | ',' :: rest =>
    readFrom (if st.inBraces then st.nextBranch else st.push (.literal ',')) (some ',') rest
  | '\\' :: c :: rest => readFrom (st.push (.literal c)) (some c) rest
  | ['\\'] => .error .danglingEscape
  | c :: rest => readFrom (st.push (.literal c)) (some c) rest
termination_by cs.length

/-- The pattern of a text. -/
def parse (pattern : String) : Except Fault Glob := do
  return ⟨← readFrom {} none pattern.toList⟩

end StandardsGate.Glob
