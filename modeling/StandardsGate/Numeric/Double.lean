/-!
Double-precision numbers, without machine arithmetic.

A finite number is a sign and a value `m * 2 ^ e` with `m < 2 ^ 53` and `-1074 ≤ e`; it is kept in
the form with the largest `m`. All roundings go through one function, `Double.ofRatio`, which rounds
an exact quotient to the nearest number and a tie to an even `m`.

Main definitions:

* `Double` — finite numbers, infinities, and the value that is no number;
* `Double.ofRatio` — the nearest number to a quotient;
* `Double.shortest` — the fewest decimal digits that read back, nearest to the value.
-/

namespace StandardsGate

/-- A double-precision number. -/
inductive Double
  | finite (negative : Bool) (mantissa : Nat) (exponent : Int)
  | infinity (negative : Bool)
  | nan
deriving DecidableEq, Repr, Inhabited

namespace Double

/-- The largest power of two that divides the values of the smallest numbers. -/
def minExponent : Int := -1074

/-- The largest exponent of a finite number. -/
def maxExponent : Int := 971

/-- Zero with a sign. -/
def zero (negative : Bool) : Double := finite negative 0 minExponent

/-- Two to the power of `n`. -/
def twoTo (n : Nat) : Nat := Nat.pow 2 n

/-- Ten to the power of `n`. -/
def tenTo (n : Nat) : Nat := Nat.pow 10 n

/-- The quotient rounded to the nearest whole number, a tie to the even one. -/
def roundDiv (num den : Nat) : Nat :=
  let q := num / den
  let r := num % den
  if 2 * r < den then q else if den < 2 * r then q + 1 else if q % 2 = 0 then q else q + 1

/-- The quotient of two numbers and a power of two, rounded to a whole number. -/
def scaled (num den : Nat) (e : Int) : Nat :=
  if 0 ≤ e then roundDiv num (den * twoTo e.toNat) else roundDiv (num * twoTo (-e).toNat) den

/-- The exponent with which `num / den` has 53 binary digits, or the least one. -/
def exponentFor (num den : Nat) : Int :=
  let guess : Int := (Nat.log2 num : Int) - (Nat.log2 den : Int) - 52
  let enough (e : Int) : Bool :=
    if 0 ≤ e then den * twoTo e.toNat * twoTo 52 ≤ num else den * twoTo 52 ≤ num * twoTo (-e).toNat
  max minExponent (if enough guess then guess else guess - 1)

/-- The number nearest to `num / den`, with the given sign. -/
def ofRatio (negative : Bool) (num den : Nat) : Double :=
  if num = 0 || den = 0 then zero negative
  else
    let e := exponentFor num den
    let m := scaled num den e
    let (m, e) := if m = twoTo 53 then (twoTo 52, e + 1) else (m, e)
    if maxExponent < e then infinity negative else finite negative m e

/-- The number nearest to `digits * 10 ^ exponent`. Exponents beyond every finite number are cut
off, so that no huge power is formed. -/
def ofDecimal (negative : Bool) (digits : Nat) (exponent : Int) : Double :=
  let size : Int := Nat.log2 digits
  if digits = 0 then zero negative
  else if 400 < exponent then infinity negative
  else if exponent < -400 - size then zero negative
  else if 0 ≤ exponent then ofRatio negative (digits * tenTo exponent.toNat) 1
  else ofRatio negative digits (tenTo (-exponent).toNat)

/-- The number nearest to a whole number. -/
def ofNat (n : Nat) : Double := ofRatio false n 1

/-- A finite number's size as a quotient. -/
def ratio (mantissa : Nat) (exponent : Int) : Nat × Nat :=
  if 0 ≤ exponent then (mantissa * twoTo exponent.toNat, 1) else (mantissa, twoTo (-exponent).toNat)

/-- Whether the number is neither an infinity nor `nan`. -/
def isFinite : Double → Bool
  | finite .. => true
  | _ => false

/-- Equality of values: the two zeros are equal. -/
def sameValue : Double → Double → Bool
  | finite n m e, finite n' m' e' => (m == 0 && m' == 0) || (n == n' && m == m' && e == e')
  | infinity n, infinity n' => n == n'
  | _, _ => false

/-- The product, rounded; used with non-negative finite factors. -/
def mul : Double → Double → Double
  | finite n m e, finite n' m' e' =>
    let (a, b) := ratio m e
    let (c, d) := ratio m' e'
    ofRatio (n != n') (a * c) (b * d)
  | finite n _ _, infinity n' | infinity n, finite n' _ _ => infinity (n != n')
  | infinity n, infinity n' => infinity (n != n')
  | _, _ => nan

/-- The quotient, rounded; used with finite operands and a divisor other than zero. -/
def div : Double → Double → Double
  | finite n m e, finite n' m' e' =>
    let (a, b) := ratio m e
    let (c, d) := ratio m' e'
    ofRatio (n != n') (a * d) (b * c)
  | infinity n, finite n' _ _ => infinity (n != n')
  | _, _ => nan

/-- The sum of two numbers that are not negative, rounded. -/
def addPos : Double → Double → Double
  | finite _ m e, finite _ m' e' =>
    let (a, b) := ratio m e
    let (c, d) := ratio m' e'
    ofRatio false (a * d + c * b) (b * d)
  | _, _ => infinity false

/-- The number with the opposite sign. -/
def neg : Double → Double
  | finite n m e => finite (!n) m e
  | infinity n => infinity (!n)
  | nan => nan

/-! ### Decimal text -/

/-- Decimal digits and the place of the point: `0.d₁d₂… * 10 ^ point`. -/
structure Decimal where
  digits : List Char
  point : Int
deriving DecidableEq, Repr

/-- The least `k` with `num / den < 10 ^ k`, found from a guess that is at most one too small. -/
def pointOf (num den : Nat) : Int :=
  let guess : Int := ((Nat.log2 num : Int) - (Nat.log2 den : Int) - 1) * 30103 / 100000
  let below (k : Int) : Bool :=
    if 0 ≤ k then num < den * tenTo k.toNat else num * tenTo (-k).toNat < den
  if below guess then guess else if below (guess + 1) then guess + 1 else guess + 2

/-- The text of `t` without zeros at its end. -/
def significant (t : Nat) : List Char :=
  ((Nat.toDigits 10 t).reverse.dropWhile (· == '0')).reverse

/-- Looks for a decimal number with `n` digits, then with more, that lies between the midpoints to
the neighbours of `m * 2 ^ e`; of two the nearer to it. All quantities are multiplied by four. -/
def shortestFrom (m : Nat) (e : Int) (low : Nat) (point : Int) : Nat → Nat → Decimal
  | 0, _ => ⟨[], point⟩
  | fuel + 1, n =>
    let unit : Int := point - n
    -- the value, the midpoints and the unit of the last digit over one denominator
    let two := if 0 ≤ e then twoTo e.toNat else 1
    let twoDen := if 0 ≤ e then 1 else twoTo (-e).toNat
    let ten := if 0 ≤ unit then tenTo unit.toNat else 1
    let tenDen := if 0 ≤ unit then 1 else tenTo (-unit).toNat
    let value := 4 * m * two * tenDen
    let lowest := (4 * m - low) * two * tenDen
    let highest := (4 * m + 2) * two * tenDen
    let step := 4 * ten * twoDen
    let t := value / step
    let inside (x : Nat) : Bool :=
      if m % 2 = 0 then lowest ≤ x && x ≤ highest else lowest < x && x < highest
    let downOk := inside (t * step) && t != 0
    let upOk := inside ((t + 1) * step)
    let found (x : Nat) : Decimal :=
      ⟨significant x, if x = tenTo n then point + 1 else point⟩
    if downOk && upOk then
      let down := value - t * step
      let up := (t + 1) * step - value
      if down < up then found t else if up < down then found (t + 1)
      else if t % 2 = 0 then found t else found (t + 1)
    else if downOk then found t
    else if upOk then found (t + 1)
    else shortestFrom m e low point fuel (n + 1)

/-- The fewest decimal digits that read back as `m * 2 ^ e`, nearest to it. Seventeen are always
enough. -/
def shortest (m : Nat) (e : Int) : Decimal :=
  if m = 0 then ⟨['0'], 1⟩
  else
    let (num, den) := ratio m e
    let low := if m = twoTo 52 && minExponent < e then 1 else 2
    shortestFrom m e low (pointOf num den) 18 1

/-- Zeros in a row. -/
def zeros (n : Nat) : List Char := List.replicate n '0'

/-- Digits written with a point and no exponent; a whole number gets the tail `whole`. -/
def positional (d : Decimal) (whole : List Char) : List Char :=
  let n : Int := d.digits.length
  if d.point ≤ 0 then ['0', '.'] ++ zeros (-d.point).toNat ++ d.digits
  else if n ≤ d.point then d.digits ++ zeros (d.point - n).toNat ++ whole
  else d.digits.take d.point.toNat ++ ['.'] ++ d.digits.drop d.point.toNat

/-- How a data format writes doubles: numbers below which place of the point get an exponent, and
whether a positive exponent has a sign. -/
structure Layout where
  low : Int
  plus : Bool

/-- Digits written with an exponent. -/
def scientific (plus : Bool) (d : Decimal) : List Char :=
  let e := (if plus && 0 < d.point - 1 then ['+'] else []) ++ (toString (d.point - 1)).toList
  match d.digits with
  | [] => []
  | [c] => c :: 'e' :: e
  | c :: rest => c :: '.' :: rest ++ 'e' :: e

/-- A sign in front of a text. -/
def signed (negative : Bool) (cs : List Char) : String :=
  String.ofList (if negative then '-' :: cs else cs)

/-- The text of a number in a data format. It is positional where the point of `0.d₁d₂…` moves by
more than `low` and at most 16 places, with `.0` after a whole number, and has an exponent
elsewhere. -/
def toText (layout : Layout) : Double → String
  | finite n m e =>
    let d := shortest m e
    signed n (if m = 0 then "0.0".toList
      else if layout.low < d.point && d.point ≤ 16 then positional d ".0".toList
      else scientific layout.plus d)
  | infinity n => signed n "inf".toList
  | nan => "NaN"

/-- The text of a number in a sentence: always positional, a whole number without a point. -/
def toPlainText : Double → String
  | finite n m e => signed n (if m = 0 then ['0'] else positional (shortest m e) [])
  | infinity n => signed n "inf".toList
  | nan => "NaN"

end Double

end StandardsGate
