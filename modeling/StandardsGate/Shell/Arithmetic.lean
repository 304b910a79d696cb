import StandardsGate.Text.Decimal

/-!
Shell arithmetic.

Main definitions:

* `Shell.calculate` — the value of an expression.
-/

namespace StandardsGate.Shell

/-- A token of an expression. -/
inductive Token
  | number (n : Int)
  | sign (s : String)
deriving DecidableEq, Repr, Inhabited

/-- The signs of two characters. -/
def doubleSigns : List String := ["<=", ">=", "==", "!=", "&&", "||"]

/-- The tokens of an expression; names stand for the values of variables. -/
def tokens (value : List Char → Int) : Nat → List Char → List Token
  | 0, _ => []
  | _, [] => []
  | fuel + 1, c :: rest =>
    if c.isWhitespace then tokens value fuel rest
    else if c.isDigit then
      let ds := c :: rest.takeWhile Char.isDigit
      .number (Text.decimalValue ds) :: tokens value fuel (rest.dropWhile Char.isDigit)
    else if c.isAlpha || c == '_' then
      let isName (d : Char) : Bool := d.isAlphanum || d == '_'
      .number (value (c :: rest.takeWhile isName)) :: tokens value fuel (rest.dropWhile isName)
    else
      let two := String.ofList (c :: rest.take 1)
      if doubleSigns.contains two then .sign two :: tokens value fuel (rest.drop 1)
      else .sign c.toString :: tokens value fuel rest

/-- How strongly a sign between two numbers binds. -/
def strength? (s : String) : Option Nat :=
  if s == "||" then some 1
  else if s == "&&" then some 2
  else if s == "==" || s == "!=" then some 3
  else if ["<", ">", "<=", ">="].contains s then some 4
  else if s == "+" || s == "-" then some 5
  else if ["*", "/", "%"].contains s then some 6
  else none

/-- A truth value as a number. -/
def truth (b : Bool) : Int := if b then 1 else 0

/-- What a sign makes of two numbers. A division by zero has no value. -/
def apply (s : String) (a b : Int) : Option Int :=
  match s with
  | "+" => some (a + b)
  | "-" => some (a - b)
  | "*" => some (a * b)
  | "/" => if b = 0 then none else some (a.tdiv b)
  | "%" => if b = 0 then none else some (a.tmod b)
  | "<" => some (truth (a < b))
  | ">" => some (truth (b < a))
  | "<=" => some (truth (a ≤ b))
  | ">=" => some (truth (b ≤ a))
  | "==" => some (truth (a = b))
  | "!=" => some (truth (a ≠ b))
  | "&&" => some (truth (a ≠ 0 && b ≠ 0))
  | "||" => some (truth (a ≠ 0 || b ≠ 0))
  | _ => none

mutual

/-- Reads a number, a sign in front of one, or an expression in parentheses. -/
def readOperand (fuel : Nat) (ts : List Token) : Option (Int × List Token) :=
  match fuel, ts with
  | 0, _ => none
  | _, .number n :: rest => some (n, rest)
  | fuel + 1, .sign "-" :: rest => (readOperand fuel rest).map fun r => (-r.1, r.2)
  | fuel + 1, .sign "+" :: rest => readOperand fuel rest
  | fuel + 1, .sign "!" :: rest => (readOperand fuel rest).map fun r => (truth (r.1 = 0), r.2)
  | fuel + 1, .sign "(" :: rest =>
    match (readOperand fuel rest).bind fun r => readRest fuel 1 r.1 r.2 with
    | some (n, .sign ")" :: rest) => some (n, rest)
    | _ => none
  | _, _ => none

/-- Reads signs that bind at least so strongly, with their right operands. -/
def readRest (fuel strength : Nat) (left : Int) (ts : List Token) : Option (Int × List Token) :=
  match fuel, ts with
  | 0, _ => none
  | fuel + 1, .sign s :: rest =>
    match strength? s with
    | none => some (left, .sign s :: rest)
    | some k =>
      if k < strength then some (left, .sign s :: rest)
      else do
        let (n, rest) ← readOperand fuel rest
        let (right, rest) ← readRest fuel (k + 1) n rest
        readRest fuel strength (← apply s left right) rest
  | _, ts => some (left, ts)

end

/-- The value of an expression; `none` if it has none. -/
def calculate (value : List Char → Int) (cs : List Char) : Option Int :=
  match tokens value cs.length cs with
  | [] => some 0
  | ts => do
    let fuel := 2 * ts.length + 2
    let (n, rest) ← readOperand fuel ts
    match ← readRest fuel 1 n rest with
    | (n, []) => return n
    | _ => none

end StandardsGate.Shell
