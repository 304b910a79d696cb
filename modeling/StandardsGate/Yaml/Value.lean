import StandardsGate.Numeric.Double

/-!
YAML values.

Main definitions:

* `Yaml.Value` — the values that untyped parts of a document stand for;
* `Yaml.Value.same` — equality of values, as it decides whether a mapping repeats a key;
* `Yaml.scalarValue` — what a plain scalar stands for, from its text.
-/

namespace StandardsGate.Yaml

/-- A YAML value. A mapping keeps the order of writing. -/
inductive Value
  | null
  | bool (b : Bool)
  | int (n : Int)
  | float (x : Double)
  | str (s : String)
  | seq (items : List Value)
  | map (entries : List (Value × Value))
  | tagged (tag : String) (value : Value)
deriving Repr, Inhabited

namespace Value

/-- Equality of doubles as keys: the two zeros are one key, and so is every `nan`. -/
def sameFloat (x y : Double) : Bool := x.sameValue y || (x == .nan && y == .nan)

mutual

/-- Equality of values. The order of a mapping's entries does not matter. -/
def same : Value → Value → Bool
  | null, null => true
  | bool a, bool b => a == b
  | int a, int b => a == b
  | float a, float b => sameFloat a b
  | str a, str b => a == b
  | seq a, seq b => sameItems a b
  | map a, map b => a.length == b.length && sameEntries a b
  | tagged t a, tagged u b => t == u && same a b
  | _, _ => false

/-- Equality of sequences. -/
def sameItems : List Value → List Value → Bool
  | [], [] => true
  | a :: as, b :: bs => same a b && sameItems as bs
  | _, _ => false

/-- Whether every entry of the first list is one of the second. -/
def sameEntries : List (Value × Value) → List (Value × Value) → Bool
  | [], _ => true
  | (k, v) :: rest, bs => bs.any (fun e => same k e.1 && same v e.2) && sameEntries rest bs

end

/-- The text, if the value is one; a tag in front of it is passed over. -/
def str? : Value → Option String
  | str s => some s
  | tagged _ v => v.str?
  | _ => none

/-- The number, if the value is a whole one that is not negative; a tag in front of it is passed
over. -/
def nat? : Value → Option Nat
  | int n => if 0 ≤ n then some n.toNat else none
  | tagged _ v => v.nat?
  | _ => none

end Value

/-! ### Plain scalars -/

/-- Whether a text spells the null value. -/
def isNullText (s : String) : Bool := s == "null" || s == "Null" || s == "NULL" || s == "~"

/-- The truth value that a text spells. -/
def boolOf? (s : String) : Option Bool :=
  if s == "true" || s == "True" || s == "TRUE" then some true
  else if s == "false" || s == "False" || s == "FALSE" then some false
  else none

/-- The value of a digit in a base up to sixteen. -/
def digitValue? (base : Nat) (c : Char) : Option Nat := do
  let d ← if '0' ≤ c && c ≤ '9' then some (c.toNat - '0'.toNat)
    else if 'a' ≤ c && c ≤ 'f' then some (c.toNat - 'a'.toNat + 10)
    else if 'A' ≤ c && c ≤ 'F' then some (c.toNat - 'A'.toNat + 10)
    else none
  if d < base then some d else none

/-- The number that digits denote; there must be one. -/
def natOf? (base : Nat) (cs : List Char) : Option Nat :=
  if cs.isEmpty then none
  else cs.foldlM (fun n c => (digitValue? base c).map (n * base + ·)) 0

/-- Whether a text is digits only, after a sign perhaps, but begins with a zero that is not all of
it. Such a text is no number. -/
def hasIdleZero (cs : List Char) : Bool :=
  let ds := match cs with
    | '-' :: rest | '+' :: rest => rest
    | _ => cs
  match ds with
  | '0' :: d :: rest => (d :: rest).all Char.isDigit
  | _ => false

/-- The digits after a base mark such as `0x`, with the base. -/
def based? : List Char → Option (Nat × List Char)
  | '0' :: 'x' :: rest => some (16, rest)
  | '0' :: 'o' :: rest => some (8, rest)
  | '0' :: 'b' :: rest => some (2, rest)
  | _ => none

/-- The size of a whole number written in some base, without a sign. -/
def magnitude? (cs : List Char) : Option Nat :=
  match based? cs with
  | some (base, ds) => natOf? base ds
  | none => if hasIdleZero cs then none else natOf? 10 cs

/-- The whole number that a text denotes: a sign, and digits in base sixteen, eight, two or ten. -/
def intOf? (cs : List Char) : Option Int :=
  match cs with
  | '-' :: rest => (magnitude? rest).map fun n => -(n : Int)
  | '+' :: rest => (magnitude? rest).map Int.ofNat
  | _ => (magnitude? cs).map Int.ofNat

/-- The parts of a decimal number without a sign: digits, digits after the point, and the exponent. -/
def decimalParts? (cs : List Char) : Option (List Char × List Char × Int) := do
  let whole := cs.takeWhile Char.isDigit
  let rest := cs.drop whole.length
  let (fraction, rest) := match rest with
    | '.' :: rest => let f := rest.takeWhile Char.isDigit; (f, rest.drop f.length)
    | _ => ([], rest)
  if whole.isEmpty && fraction.isEmpty then none
  match rest with
  | [] => return (whole, fraction, 0)
  | e :: rest =>
    if e != 'e' && e != 'E' then none
    let (negative, ds) := match rest with
      | '-' :: ds => (true, ds)
      | '+' :: ds => (false, ds)
      | ds => (false, ds)
    if !ds.all Char.isDigit then none
    let n ← natOf? 10 ds
    return (whole, fraction, if negative then -(n : Int) else n)

/-- The finite number that a decimal text denotes. -/
def finiteOf? (negative : Bool) (cs : List Char) : Option Double := do
  let (whole, fraction, exponent) ← decimalParts? cs
  let n ← natOf? 10 (whole ++ fraction)
  let x := Double.ofDecimal negative n (exponent - fraction.length)
  if x.isFinite then some x else none

/-- The floating-point number that a text denotes: an infinity, `nan` or a decimal number. -/
def floatOf? (cs : List Char) : Option Double :=
  let isInf (cs : List Char) : Bool := cs == ".inf".toList || cs == ".Inf".toList ||
    cs == ".INF".toList
  match cs with
  | '+' :: rest => if isInf rest then some (.infinity false) else finiteOf? false rest
  | '-' :: rest => if isInf rest then some (.infinity true) else finiteOf? true rest
  | _ =>
    if isInf cs then some (.infinity false)
    else if cs == ".nan".toList || cs == ".NaN".toList || cs == ".NAN".toList then some .nan
    else finiteOf? false cs

/-- How a whole number can be kept. -/
inductive IntRange
  | fits
  | tooWide
  | asFloat
deriving DecidableEq

/-- Whole numbers are kept in 64 bits. Those that would need up to 128 bits are refused; beyond that
a text is read as a floating-point number. -/
def intRange (n : Int) : IntRange :=
  let limit := if n < 0 then UInt64.size / 2 else UInt64.size - 1
  let wideLimit := if n < 0 then UInt64.size * UInt64.size / 2 else UInt64.size * UInt64.size - 1
  if n.natAbs ≤ limit then .fits else if n.natAbs ≤ wideLimit then .tooWide else .asFloat

/-- The value of a text read as a floating-point number, or else as itself. -/
def floatOrText (text : String) : Value :=
  let cs := text.toList
  if hasIdleZero cs then .str text
  else match floatOf? cs with
    | some x => .float x
    | none => .str text

/-- What a plain scalar stands for; `none` when it is a whole number that cannot be kept. -/
def scalarValue (text : String) : Option Value :=
  if text.isEmpty || isNullText text then some .null
  else match boolOf? text with
    | some b => some (.bool b)
    | none =>
      match intOf? text.toList with
      | some n =>
        match intRange n with
        | .fits => some (.int n)
        | .tooWide => none
        | .asFloat => some (floatOrText text)
      | none => some (floatOrText text)

end StandardsGate.Yaml
