import StandardsGate.Regex

/-!
Patterns of forbidden words.

A pattern is a regular expression, bare or between delimiters. In the delimited form, as in
`/todo/i`, letters after the second delimiter are flags.

Main definitions:

* `Pattern.splitDelimited` — the body and the flags of a delimited pattern;
* `Pattern.compile` — the regular expression of a pattern, bare or delimited.
-/

namespace StandardsGate.Pattern

/-- Why a pattern cannot be used. -/
inductive Fault
  /-- A flag that does not exist. -/
  | unknownFlag (flag : Char)
  /-- The regular expression is none. -/
  | regex (e : Regex.Error)
deriving DecidableEq, Repr

/-- The wording of a fault. -/
def Fault.message : Fault → String
  | unknownFlag flag => "unsupported pattern flag '" ++ flag.toString ++ "'"
  | regex e => e.message

/-- The characters that delimit patterns. -/
def delimiters : List Char := ['/', '#', '~', '%', '!', '|', '@']

/-- The body and the flags of a delimited pattern: what stands between its first character and the
last occurrence of that character, and the letters behind it. -/
def splitDelimited : List Char → Option (List Char × List Char)
  | [] => none
  | d :: rest =>
    if !delimiters.contains d then none
    else
      let flags := (rest.reverse.takeWhile (· != d)).reverse
      if flags.length = rest.length then none
      else if !flags.all Char.isAlpha then none
      else some (rest.take (rest.length - flags.length - 1), flags)

/-- The flags that a regular expression has too. The flag `u` is always on and is left out. -/
def inlineFlags : List Char → Except Fault (List Char)
  | [] => .ok []
  | f :: rest =>
    if ['i', 'm', 's', 'x'].contains f then (inlineFlags rest).map (f :: ·)
    else if f = 'u' then inlineFlags rest
    else .error (.unknownFlag f)

/-- The text of the regular expression that a pattern stands for. -/
def source (raw : List Char) : Except Fault (List Char) :=
  match splitDelimited raw with
  | none => .ok raw
  | some (body, flags) => do
    let inline ← inlineFlags flags
    return if inline.isEmpty then body else ['(', '?'] ++ inline ++ ')' :: body

/-- The regular expression of a pattern. -/
def compile (raw : String) : Except Fault Regex := do
  (Regex.compile (String.ofList (← source raw.toList))).mapError .regex

end StandardsGate.Pattern
