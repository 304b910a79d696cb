/-!
Sets of code points.

A set is a list of closed ranges of code points. The ranges may be given in any order and may
overlap; `CodeSet.ofRanges` sorts and joins them, and every operation below answers in that form.

Main definitions:

* `CodeSet.contains` — membership of a character, the view through which a set is read;
* `CodeSet.union`, `CodeSet.complement`, `CodeSet.inter`, `CodeSet.diff`, `CodeSet.symmDiff` —
  the operations of set algebra that character classes are written with;
* `CodeSet.ofTable` — a set from its written form, hexadecimal ranges separated by blanks.
-/

namespace StandardsGate

/-- A set of code points, as closed ranges. -/
structure CodeSet where
  ranges : List (Nat × Nat)
deriving DecidableEq, Repr, Inhabited

namespace CodeSet

/-- The last code point. -/
def last : Nat := 0x10FFFF

/-- The set without members. -/
def empty : CodeSet := ⟨[]⟩

/-- The set of all code points. -/
def all : CodeSet := ⟨[(0, last)]⟩

/-- Whether a code point lies in one of the ranges. -/
def containsCode (s : CodeSet) (n : Nat) : Bool :=
  s.ranges.any fun r => r.1 ≤ n && n ≤ r.2

/-- Whether a character is a member. -/
def contains (s : CodeSet) (c : Char) : Bool := s.containsCode c.toNat

/-- The set of one code point. -/
def singleton (n : Nat) : CodeSet := ⟨[(n, n)]⟩

/-- The set of a closed range. -/
def range (lo hi : Nat) : CodeSet := ⟨[(lo, hi)]⟩

/-- Joins ranges that are sorted by their lower ends, the first one being still open to growth. -/
def join : Nat × Nat → List (Nat × Nat) → List (Nat × Nat)
  | r, [] => [r]
  | r, s :: rest =>
    if s.1 ≤ r.2 + 1 then join (r.1, max r.2 s.2) rest else r :: join s rest

/-- The set of the given ranges, sorted and with touching ranges joined. -/
def ofRanges (rs : List (Nat × Nat)) : CodeSet :=
  match rs.mergeSort (fun a b => a.1 ≤ b.1) with
  | [] => empty
  | r :: rest => ⟨join r rest⟩

/-- The members of either set. -/
def union (s t : CodeSet) : CodeSet := ofRanges (s.ranges ++ t.ranges)

/-- The members of any of the sets. -/
def unions (sets : List CodeSet) : CodeSet := ofRanges (sets.flatMap CodeSet.ranges)

/-- The gaps between sorted ranges, from `low` to the last code point. -/
def gaps (low : Nat) : List (Nat × Nat) → List (Nat × Nat)
  | [] => if low ≤ last then [(low, last)] else []
  | r :: rest => if low < r.1 then (low, r.1 - 1) :: gaps (r.2 + 1) rest else gaps (r.2 + 1) rest

/-- The code points that are no members. -/
def complement (s : CodeSet) : CodeSet := ⟨gaps 0 (ofRanges s.ranges).ranges⟩

/-- The common members. -/
def inter (s t : CodeSet) : CodeSet := (s.complement.union t.complement).complement

/-- The members of the first set that are not in the second. -/
def diff (s t : CodeSet) : CodeSet := s.inter t.complement

/-- The members of exactly one of the sets. -/
def symmDiff (s t : CodeSet) : CodeSet := (s.diff t).union (t.diff s)

/-- Whether every member lies below the given code point. -/
def isBelow (s : CodeSet) (n : Nat) : Bool := s.ranges.all fun r => r.2 < n

/-! ### Written form -/

/-- The value of a hexadecimal digit; `none` for any other character. -/
def hexValue? (c : Char) : Option Nat :=
  if '0' ≤ c && c ≤ '9' then some (c.toNat - '0'.toNat)
  else if 'a' ≤ c && c ≤ 'f' then some (c.toNat - 'a'.toNat + 10)
  else if 'A' ≤ c && c ≤ 'F' then some (c.toNat - 'A'.toNat + 10)
  else none

/-- Reads ranges: `low` is the lower end once a dash was read, `cur` the number being read. -/
def readRanges : Option Nat → Nat → List Char → List (Nat × Nat)
  | low, cur, [] => [(low.getD cur, cur)]
  | low, cur, c :: rest =>
    match hexValue? c with
    | some d => readRanges low (cur * 16 + d) rest
    | none =>
      if c = '-' then readRanges (some cur) 0 rest
      else (low.getD cur, cur) :: readRanges none 0 rest

/-- The set that a table row such as `41-5A 61-7A` writes down; an empty row is the empty set. -/
def ofTable (row : String) : CodeSet :=
  if row.isEmpty then empty else ⟨readRanges none 0 row.toList⟩

end CodeSet

end StandardsGate
