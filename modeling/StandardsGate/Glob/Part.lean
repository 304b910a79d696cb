import StandardsGate.Text.Utf8

/-!
Glob patterns and the paths that they match.

A pattern is a list of parts. Matching is on the bytes of a path: a question mark takes one byte,
and a class one of its bytes, so a character beyond ASCII needs several of them. Stars take slashes
too.

Main definitions:

* `Glob.Part`, `Glob` — parts and patterns;
* `Glob.residuals` — what may be left of a path after a pattern has matched its start;
* `Glob.isMatch` — whether a pattern matches a whole path.
-/

namespace StandardsGate

namespace Glob

/-- A part of a glob pattern. The recursive ones are `**` between slashes: at the start they take
any directories or none, at the end a slash and everything below it, in the middle a slash or a path
between two slashes. -/
inductive Part
  | literal (c : Char)
  | any
  | star
  | anyDirs
  | subtree
  | between
  | oneOf (negated : Bool) (ranges : List (Char × Char))
  | alternatives (branches : List (List Part))
deriving Repr, Inhabited

/-- The byte of a slash. -/
def slash : UInt8 := 0x2F

/-- Whether a class of ranges holds a byte. The characters of a range beyond ASCII count byte by
byte: the last byte of the lower end and the first byte of the upper end bound the range, and the
other bytes stand for themselves. -/
def rangeHolds (r : Char × Char) (b : UInt8) : Bool :=
  let lo := Utf8.encodeChar r.1
  let hi := Utf8.encodeChar r.2
  if r.1 = r.2 then lo.contains b
  else lo.dropLast.contains b || (lo.getLastD 0 ≤ b && b ≤ hi.headD 0) || (hi.drop 1).contains b

/-- Takes a literal from the start of a path. -/
def takeLiteral (lit path : List UInt8) : List (List UInt8) :=
  if lit.isPrefixOf path then [path.drop lit.length] else []

/-- Takes one byte that satisfies a condition. -/
def takeByte (p : UInt8 → Bool) : List UInt8 → List (List UInt8)
  | [] => []
  | b :: rest => if p b then [rest] else []

/-- Everything that may be left after any number of bytes. -/
def tails : List UInt8 → List (List UInt8)
  | [] => [[]]
  | b :: rest => (b :: rest) :: tails rest

/-- What may be left after any number of bytes and a slash. -/
def afterSlash : List UInt8 → List (List UInt8)
  | [] => []
  | b :: rest => if b = slash then rest :: afterSlash rest else afterSlash rest

/-- Whether a branch of alternatives stands for no text at all, holding nothing or only braces with
nothing in them; such branches are left out. -/
def isVoid (branch : List Part) : Bool :=
  branch.all fun
    | .alternatives [[]] => true
    | _ => false

mutual

/-- What may be left of the start of a path after a part. -/
def partResiduals : Part → List UInt8 → List (List UInt8)
  | .literal c, path => takeLiteral (Utf8.encodeChar c) path
  | .any, path => takeByte (fun _ => true) path
  | .star, path => tails path
  | .anyDirs, path => path :: (takeLiteral [slash] path ++ afterSlash path)
  | .subtree, path => (takeLiteral [slash] path).flatMap tails
  | .between, path => takeLiteral [slash] path ++ (takeLiteral [slash] path).flatMap afterSlash
  | .oneOf negated ranges, path =>
    takeByte (fun b => (ranges.any fun r => rangeHolds r b) != negated) path
  | .alternatives branches, path => branchResiduals branches path

/-- What may be left of the start of a path after a list of parts. -/
def residuals : List Part → List UInt8 → List (List UInt8)
  | [], path => [path]
  | p :: rest, path => ((partResiduals p path).flatMap fun r => residuals rest r).eraseDups

/-- What may be left of the start of a path after any branch. -/
def branchResiduals : List (List Part) → List UInt8 → List (List UInt8)
  | [], _ => []
  | b :: rest, path => residuals b path ++ branchResiduals rest path

end

end Glob

/-- A glob pattern. -/
structure Glob where
  parts : List Glob.Part
deriving Repr, Inhabited

namespace Glob

/-- Whether a part is a literal. -/
def Part.isLiteral : Part → Bool
  | .literal _ => true
  | _ => false

/-- Whether a part is a slash. -/
def Part.isSlash : Part → Bool
  | .literal '/' => true
  | _ => false

/-- Whether a pattern that ends in a dot asks for a file's name: it is a name below any directories,
or a star and the dot, or it has other parts than literals after its start. -/
def asksForName (parts : List Part) : Bool :=
  match parts with
  | .anyDirs :: .star :: rest | .star :: rest => !rest.all Part.isLiteral || rest.length = 1
  | .anyDirs :: rest => !rest.all Part.isLiteral || !rest.any Part.isSlash
  | parts => !parts.all Part.isLiteral

/-- Whether a pattern ends in a dot. -/
def endsInDot (parts : List Part) : Bool :=
  match parts.getLast? with
  | some (.literal '.') => true
  | _ => false

/-- The bytes of two dots. -/
def twoDots : List UInt8 := [0x2E, 0x2E]

/-- Whether a path ends in a way up, which is no file's name. -/
def leadsUp (path : List UInt8) : Bool := path == twoDots || (slash :: twoDots).isSuffixOf path

/-- Whether the pattern matches the whole of a path, given by its bytes. The pattern `**` alone
matches every path, and one that asks for a file's name matches no path that leads up. -/
def isMatch (g : Glob) (path : List UInt8) : Bool :=
  match g.parts with
  | [.anyDirs] => true
  | parts =>
    (residuals parts path).contains [] &&
      !(leadsUp path && endsInDot parts && asksForName parts)

end Glob

end StandardsGate
