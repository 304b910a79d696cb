import StandardsGate.Text.Lines

/-!
The end of a long text.

Main definitions:

* `Text.tail` — the last lines of a text, and of these the last characters, with a mark in front if
  characters were cut.
-/

namespace StandardsGate.Text

/-- The last `n` items of a list. -/
def lastOf {α : Type} (n : Nat) (items : List α) : List α := items.drop (items.length - n)

/-- The line that stands in front of a text whose beginning was cut. -/
def cutMark : List Char := "...(truncated)...\n".toList

/-- The last `maxLines` lines of a text. -/
def lastLines (maxLines : Nat) (cs : List Char) : List Char :=
  joinWith ['\n'] (lastOf maxLines (lines cs))

/-- The last lines of a text, and of these the last characters. -/
def tailChars (maxLines maxChars : Nat) (cs : List Char) : List Char :=
  let kept := lastLines maxLines cs
  if maxChars < kept.length then cutMark ++ lastOf maxChars kept else kept

/-- The end of a text: at most so many lines, and of these at most so many characters. -/
def tail (maxLines maxChars : Nat) (s : String) : String :=
  String.ofList (tailChars maxLines maxChars s.toList)

end StandardsGate.Text
