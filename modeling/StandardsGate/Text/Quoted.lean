import StandardsGate.Unicode.Property

/-!
Texts in quotes, for messages.

Quotes, backslashes and line breaks are escaped, and so are all characters that would not be seen:
those without a glyph, and those that only change the character before them.

Main definitions:

* `Text.quoted` — a text in quotes.
-/

namespace StandardsGate.Text

/-- The characters without a glyph of their own: controls, separators other than the blank, and
code points that stand for no character. -/
def unseen : CodeSet :=
  (Unicode.categories [.control, .format, .unassigned, .privateUse, .lineSeparator,
    .paragraphSeparator, .spaceSeparator]).diff (CodeSet.singleton 0x20)

/-- The characters that are written by their number. -/
def numbered : CodeSet := unseen.union Unicode.graphemeExtend

/-- The hexadecimal digits of a number, in lower case. -/
def hexDigits (n : Nat) : List Char := Nat.toDigits 16 n

/-- A character between quotes. -/
def quotedChar (c : Char) : List Char :=
  match c with
  | '\x00' => ['\\', '0']
  | '\t' => ['\\', 't']
  | '\r' => ['\\', 'r']
  | '\n' => ['\\', 'n']
  | '"' => ['\\', '"']
  | '\\' => ['\\', '\\']
  | c =>
    if 0x20 ≤ c.toNat && c.toNat < 0x7F then [c]
    else if numbered.contains c then ['\\', 'u', '\x7b'] ++ hexDigits c.toNat ++ ['\x7d']
    else [c]

/-- A text in quotes. -/
def quoted (s : String) : String := String.ofList ('"' :: s.toList.flatMap quotedChar ++ ['"'])

end StandardsGate.Text
