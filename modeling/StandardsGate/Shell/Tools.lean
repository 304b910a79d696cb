import StandardsGate.Text.Lines
import StandardsGate.Text.Utf8

/-!
What small tools print.

Main definitions:

* `Shell.echoBytes`, `Shell.printfBytes` — the output of `echo` and `printf`;
* `Shell.tailBytes`, `Shell.headBytes` — the end and the beginning of some bytes;
* `Shell.durationMillis?` — the time that `sleep` takes.
-/

namespace StandardsGate.Shell

/-- The bytes of characters. -/
def bytesOf (cs : List Char) : List UInt8 := cs.flatMap Utf8.encodeChar

/-- Whether a character is an octal digit. -/
def isOctal (c : Char) : Bool := '0' ≤ c && c ≤ '7'

/-- The value of octal digits. -/
def octalValue (ds : List Char) : Nat := ds.foldl (fun n d => n * 8 + (d.toNat - '0'.toNat)) 0

/-- The byte of a letter behind a backslash. -/
def letterEscape? (c : Char) : Option UInt8 :=
  match c with
  | 'a' => some 7
  | 'b' => some 8
  | 'f' => some 12
  | 'n' => some 10
  | 'r' => some 13
  | 't' => some 9
  | 'v' => some 11
  | '\\' => some 92
  | _ => none

/-- The bytes of a text with escapes, and whether output goes on behind it. An octal escape begins
with a zero where `zeroFirst` is set. -/
def escapedBytes (zeroFirst : Bool) (cs : List Char) : List UInt8 × Bool :=
  match cs with
  | [] => ([], true)
  | '\\' :: c :: rest =>
    if c = 'c' && zeroFirst then ([], false)
    else
      let tail := if zeroFirst && c = '0' then rest else c :: rest
      let ds := (tail.take 3).takeWhile isOctal
      if isOctal c && (!zeroFirst || c = '0') then
        let more := escapedBytes zeroFirst (tail.drop ds.length |>.take (rest.length))
        (UInt8.ofNat (octalValue ds) :: more.1, more.2)
      else match letterEscape? c with
        | some b =>
          let more := escapedBytes zeroFirst rest
          (b :: more.1, more.2)
        | none =>
          let more := escapedBytes zeroFirst rest
          (bytesOf ['\\', c] ++ more.1, more.2)
  | c :: rest =>
    let more := escapedBytes zeroFirst rest
    (Utf8.encodeChar c ++ more.1, more.2)
termination_by cs.length
decreasing_by all_goals (simp only [List.length_cons, List.length_take, List.length_drop]; omega)

/-- What `echo` prints: its arguments with blanks between them, and a line feed unless the first
argument is `-n`. -/
def echoBytes (args : List (List Char)) : List UInt8 :=
  let (quiet, args) := match args with
    | ['-', 'n'] :: rest => (true, rest)
    | args => (false, args)
  let (bs, goesOn) := escapedBytes true (Text.joinWith [' '] args)
  if quiet || !goesOn then bs else bs ++ [10]

/-- A text filled with blanks up to a width. -/
def padded (left : Bool) (width : Nat) (bs : List UInt8) : List UInt8 :=
  let blanks := List.replicate (width - bs.length) (32 : UInt8)
  if left then bs ++ blanks else blanks ++ bs

/-- A number as `printf` prints it in some base. -/
def numberBytes (conversion : Char) (arg : List Char) : List UInt8 :=
  let n := ((String.ofList arg).toInt?).getD 0
  match conversion with
  | 'x' => bytesOf (Nat.toDigits 16 n.toNat)
  | 'o' => bytesOf (Nat.toDigits 8 n.toNat)
  | _ => bytesOf (toString n).toList

/-- One pass of `printf` over its format: the output and the arguments that are left. -/
def formatPass (fuel : Nat) (format : List Char) (args : List (List Char)) :
    List UInt8 × List (List Char) :=
  match fuel, format with
  | 0, _ => ([], args)
  | _, [] => ([], args)
  | fuel + 1, '%' :: '%' :: rest =>
    let more := formatPass fuel rest args
    (37 :: more.1, more.2)
  | fuel + 1, '%' :: rest =>
    let left := rest.head? == some '-'
    let flags := rest.takeWhile fun c => c == '-' || c == '0' || c == ' ' || c == '+' || c == '#'
    let rest := rest.drop flags.length
    let ds := rest.takeWhile Char.isDigit
    let width := ((String.ofList ds).toNat?).getD 0
    match rest.drop ds.length with
    | [] => ([37], args)
    | c :: rest =>
      let arg := args.head?.getD []
      let args' := args.drop 1
      let bs := match c with
        | 's' => bytesOf arg
        | 'b' => (escapedBytes true arg).1
        | 'c' => bytesOf (arg.take 1)
        | c => numberBytes c arg
      let more := formatPass fuel rest args'
      (padded left width bs ++ more.1, more.2)
  | fuel + 1, '\\' :: c :: rest =>
    let ds := ((c :: rest).take 3).takeWhile isOctal
    if isOctal c then
      let more := formatPass fuel ((c :: rest).drop ds.length) args
      (UInt8.ofNat (octalValue ds) :: more.1, more.2)
    else
      let bs := match letterEscape? c with
        | some b => [b]
        | none => bytesOf ['\\', c]
      let more := formatPass fuel rest args
      (bs ++ more.1, more.2)
  | fuel + 1, c :: rest =>
    let more := formatPass fuel rest args
    (Utf8.encodeChar c ++ more.1, more.2)

/-- What `printf` prints: the format is used again as long as arguments are left. -/
def printfBytes (format : List Char) (args : List (List Char)) : List UInt8 :=
  let (bs, left) := formatPass (format.length + 1) format args
  if left.length < args.length && !left.isEmpty then bs ++ printfBytes format left else bs
termination_by args.length
decreasing_by simp_all

/-- The lines of some bytes, each with its line feed. -/
def byteLines (bs : List UInt8) : List (List UInt8) :=
  match bs with
  | [] => []
  | b :: rest =>
    let line := (b :: rest).takeWhile (· != 10)
    let after := (b :: rest).drop line.length
    (line ++ after.take 1) ::
      (if (after.drop 1).length < (b :: rest).length then byteLines (after.drop 1) else [])
termination_by bs.length

/-- The last lines of some bytes. -/
def tailBytes (n : Nat) (bs : List UInt8) : List UInt8 :=
  let ls := byteLines bs
  (ls.drop (ls.length - n)).flatten

/-- The first lines of some bytes. -/
def headBytes (n : Nat) (bs : List UInt8) : List UInt8 := ((byteLines bs).take n).flatten

/-- The milliseconds of a number of seconds. -/
def durationMillis? (cs : List Char) : Option Nat := do
  let whole := cs.takeWhile Char.isDigit
  let fraction := match cs.drop whole.length with
    | '.' :: ds => some ds
    | [] => some []
    | _ => none
  let fraction ← fraction
  if whole.isEmpty && fraction.isEmpty then none
  if !fraction.all Char.isDigit then none
  let seconds := if whole.isEmpty then 0 else ((String.ofList whole).toNat?).getD 0
  let millis := ((String.ofList ((fraction ++ ['0', '0', '0']).take 3)).toNat?).getD 0
  return seconds * 1000 + millis

/-- What follows the last slash of a name. -/
def baseName (cs : List Char) : List Char := (cs.reverse.takeWhile (· != '/')).reverse

/-- What stands before the last slash of a name. -/
def directoryName (cs : List Char) : List Char :=
  let base := baseName cs
  if base.length = cs.length then ['.']
  else
    let d := cs.take (cs.length - base.length - 1)
    if d.isEmpty then ['/'] else d

end StandardsGate.Shell
