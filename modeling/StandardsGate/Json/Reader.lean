import StandardsGate.Json.Value
import StandardsGate.Text.Decimal

/-!
Reading JSON.

The reader accepts exactly the JSON grammar, with two limits: arrays and objects nest less than
`Json.depthLimit` deep, and a number must not exceed the largest double. Whole numbers that fit into
64 bits are exact; a number with a fraction or an exponent, one that does not fit, and `-0` are
doubles.

Main definitions:

* `Json.Fault` — what can be wrong with a text;
* `Json.parse` — the value of a text.
-/

namespace StandardsGate.Json

/-- The reasons for which a text is not JSON. -/
inductive Fault
  | unfinished
  | unexpected
  | badNumber
  | numberRange
  | badEscape
  | loneSurrogate
  | controlCharacter
  | tooDeep
  | trailing
deriving DecidableEq, Repr

/-- The wording of a fault. -/
def Fault.message : Fault → String
  | unfinished => "EOF while parsing a value"
  | unexpected => "expected value"
  | badNumber => "invalid number"
  | numberRange => "number out of range"
  | badEscape => "invalid escape"
  | loneSurrogate => "lone leading surrogate in hex escape"
  | controlCharacter => "control character (\\u0000-\\u001F) found while parsing a string"
  | tooDeep => "recursion limit exceeded"
  | trailing => "trailing characters"

/-- How deep arrays and objects may nest, less one. -/
def depthLimit : Nat := 128

/-- The blanks of JSON. -/
def isBlank (c : Char) : Bool := c == ' ' || c == '\n' || c == '\t' || c == '\r'

/-- The text without blanks at the start. -/
def skipBlanks (cs : List Char) : List Char := cs.dropWhile isBlank

/-! ### Strings -/

/-- The value of a hexadecimal digit. -/
def hexDigit? (c : Char) : Option Nat :=
  if '0' ≤ c && c ≤ '9' then some (c.toNat - '0'.toNat)
  else if 'a' ≤ c && c ≤ 'f' then some (c.toNat - 'a'.toNat + 10)
  else if 'A' ≤ c && c ≤ 'F' then some (c.toNat - 'A'.toNat + 10)
  else none

/-- The number of four hexadecimal digits. -/
def hex4? (a b c d : Char) : Option Nat := do
  return (((← hexDigit? a) * 16 + (← hexDigit? b)) * 16 + (← hexDigit? c)) * 16 + (← hexDigit? d)

/-- The character of a code point that is no surrogate. -/
def charOf (n : Nat) : Char := Char.ofNat n

/-- The character that one letter after a backslash stands for. -/
def shortEscape? (c : Char) : Option Char :=
  match c with
  | '"' => some '"'
  | '\\' => some '\\'
  | '/' => some '/'
  | 'b' => some '\x08'
  | 'f' => some '\x0C'
  | 'n' => some '\n'
  | 'r' => some '\r'
  | 't' => some '\t'
  | _ => none

/-- Reads a string after its opening quote; `acc` holds the characters read, last first. A code
point beyond 16 bits is written as two surrogates, the first of which must not stand alone. -/
def readString (acc : List Char) : List Char → Except Fault (String × List Char)
  | [] => .error .unfinished
  | '"' :: rest => .ok (String.ofList acc.reverse, rest)
  | '\\' :: 'u' :: a :: b :: c :: d :: rest =>
    match hex4? a b c d with
    | none => .error .badEscape
    | some n =>
      if 0xDC00 ≤ n && n ≤ 0xDFFF then .error .loneSurrogate
      else if 0xD800 ≤ n && n ≤ 0xDBFF then
        match rest with
        | '\\' :: 'u' :: e :: f :: g :: h :: rest =>
          match hex4? e f g h with
          | none => .error .badEscape
          | some m =>
            if 0xDC00 ≤ m && m ≤ 0xDFFF then
              readString (charOf (0x10000 + (n - 0xD800) * 0x400 + (m - 0xDC00)) :: acc) rest
            else .error .loneSurrogate
        | _ => .error .loneSurrogate
      else readString (charOf n :: acc) rest
  | '\\' :: c :: rest =>
    match shortEscape? c with
    | some e => readString (e :: acc) rest
    | none => .error .badEscape
  | c :: rest =>
    if c.toNat < 0x20 then .error .controlCharacter else readString (c :: acc) rest

/-! ### Numbers -/

/-- The largest whole number of 64 bits. -/
def maxUnsigned : Nat := UInt64.size - 1

/-- The powers of ten that a double can have. -/
def maxPower : Int := 308

/-- Scales a significand by a power of ten in one rounded step, or in two where the power is too
small for one. Too large a result is an error. -/
def scale (significand : Nat) (exponent : Int) : Except Fault Double :=
  let f := Double.ofNat significand
  let power (n : Int) : Double := Double.ofDecimal false 1 n
  if significand = 0 then .ok f
  else if maxPower < exponent then .error .numberRange
  else if 0 ≤ exponent then
    let r := f.mul (power exponent)
    if r.isFinite then .ok r else .error .numberRange
  else if -maxPower ≤ exponent then .ok (f.div (power (-exponent)))
  else if -2 * maxPower ≤ exponent then
    .ok ((f.div (power maxPower)).div (power (-(exponent + maxPower))))
  else .ok (.zero false)

/-- Appends digits to a significand while it fits into 64 bits; answers the significand and how many
digits were left out. -/
def significand (n : Nat) : List Char → Nat × Nat
  | [] => (n, 0)
  | c :: rest =>
    let m := n * 10 + (c.toNat - '0'.toNat)
    if maxUnsigned < m then (n, rest.length + 1) else significand m rest

/-- The double of a decimal number, with its sign. -/
def floatOf (negative : Bool) (whole fraction : List Char) (exponent : Int) :
    Except Fault Json := do
  let (n, dropped) := significand 0 whole
  let (n, left) := significand n fraction
  let e : Int := (dropped : Int) - ((fraction.length - left : Nat) : Int)
  let x ← scale n (e + exponent)
  return .float (if negative then x.neg else x)

/-- Reads the exponent's digits and sign, if there is one. -/
def readExponent (cs : List Char) : Except Fault (Option Int × List Char) :=
  match cs with
  | 'e' :: rest | 'E' :: rest =>
    let (negative, rest) := match rest with
      | '+' :: rest => (false, rest)
      | '-' :: rest => (true, rest)
      | _ => (false, rest)
    let ds := rest.takeWhile Char.isDigit
    if ds.isEmpty then .error .badNumber
    else
      let n : Int := Text.decimalValue ds
      .ok (some (if negative then -n else n), rest.drop ds.length)
  | _ => .ok (none, cs)

/-- Reads the digits after a point, if there is one. -/
def readFraction (cs : List Char) : Except Fault (Option (List Char) × List Char) :=
  match cs with
  | '.' :: rest =>
    let ds := rest.takeWhile Char.isDigit
    if ds.isEmpty then .error .badNumber else .ok (some ds, rest.drop ds.length)
  | _ => .ok (none, cs)

/-- The value of a whole number: exact if it fits into 64 bits, a double otherwise. -/
def wholeOf (negative : Bool) (ds : List Char) : Except Fault Json :=
  let n := Text.decimalValue ds
  if negative then
    if 0 < n && n ≤ UInt64.size / 2 then .ok (.int (-n)) else floatOf true ds [] 0
  else if n ≤ maxUnsigned then .ok (.int n)
  else floatOf false ds [] 0

/-- Reads a number after its sign. -/
def readNumber (negative : Bool) (cs : List Char) : Except Fault (Json × List Char) := do
  let ds := cs.takeWhile Char.isDigit
  let rest := cs.drop ds.length
  match ds with
  | [] => .error .badNumber
  | '0' :: _ :: _ => .error .badNumber
  | _ =>
    let (fraction, rest) ← readFraction rest
    let (exponent, rest) ← readExponent rest
    match fraction, exponent with
    | none, none => return (← wholeOf negative ds, rest)
    | _, _ => return (← floatOf negative ds (fraction.getD []) (exponent.getD 0), rest)

/-! ### Values -/

/-- Reads a given word. -/
def readWord (word : List Char) (value : Json) (cs : List Char) : Except Fault (Json × List Char) :=
  if word.isPrefixOf cs then .ok (value, cs.drop word.length) else .error .unexpected

mutual

/-- Reads a value. `depth` is how many more levels of arrays and objects are allowed; `fuel` bounds
the number of nested readings by the length of the text. -/
def readValue (fuel depth : Nat) (cs : List Char) : Except Fault (Json × List Char) :=
  match fuel with
  | 0 => .error .unfinished
  | fuel + 1 =>
    match skipBlanks cs with
    | [] => .error .unfinished
    | '"' :: rest => do
      let (s, rest) ← readString [] rest
      return (.str s, rest)
    | '[' :: rest =>
      if depth ≤ 1 then .error .tooDeep
      else match skipBlanks rest with
        | ']' :: rest => .ok (.arr [], rest)
        | rest => readItems fuel (depth - 1) [] rest
    | '\x7b' :: rest =>
      if depth ≤ 1 then .error .tooDeep
      else match skipBlanks rest with
        | '\x7d' :: rest => .ok (.obj [], rest)
        | rest => readMembers fuel (depth - 1) [] rest
    | 't' :: rest => readWord "rue".toList (.bool true) rest
    | 'f' :: rest => readWord "alse".toList (.bool false) rest
    | 'n' :: rest => readWord "ull".toList .null rest
    | '-' :: rest => readNumber true rest
    | c :: rest => if c.isDigit then readNumber false (c :: rest) else .error .unexpected

/-- Reads the items of an array from the first one not yet read. -/
def readItems (fuel depth : Nat) (acc : List Json) (cs : List Char) :
    Except Fault (Json × List Char) :=
  match fuel with
  | 0 => .error .unfinished
  | fuel + 1 => do
    let (v, rest) ← readValue fuel depth cs
    match skipBlanks rest with
    | ',' :: rest => readItems fuel depth (v :: acc) rest
    | ']' :: rest => return (.arr (v :: acc).reverse, rest)
    | [] => .error .unfinished
    | _ => .error .unexpected

/-- Reads the members of an object from the first one not yet read. -/
def readMembers (fuel depth : Nat) (acc : List (String × Json)) (cs : List Char) :
    Except Fault (Json × List Char) :=
  match fuel with
  | 0 => .error .unfinished
  | fuel + 1 => do
    match skipBlanks cs with
    | '"' :: rest =>
      let (key, rest) ← readString [] rest
      match skipBlanks rest with
      | ':' :: rest =>
        let (v, rest) ← readValue fuel depth rest
        match skipBlanks rest with
        | ',' :: rest => readMembers fuel depth ((key, v) :: acc) rest
        | '\x7d' :: rest => return (.ofMembers ((key, v) :: acc).reverse, rest)
        | [] => .error .unfinished
        | _ => .error .unexpected
      | [] => .error .unfinished
      | _ => .error .unexpected
    | [] => .error .unfinished
    | _ => .error .unexpected

end

/-- The value of a text. Every reading takes a character of the text, which bounds their number. -/
def parseChars (cs : List Char) : Except Fault Json := do
  let (v, rest) ← readValue (2 * cs.length + 2) depthLimit cs
  if (skipBlanks rest).isEmpty then return v else .error .trailing

/-- The value of a text. -/
def parse (s : String) : Except Fault Json := parseChars s.toList

end StandardsGate.Json
