/-!
A command line as words.

Blanks separate words, quotes and backslashes keep blanks in a word, and a number sign that begins
a word begins a comment.

Main definitions:

* `Words.split` — the words of a command line, or the fault in it.
-/

namespace StandardsGate.Words

/-- What is wrong with a command line. -/
inductive Fault
  /-- A quotation is not closed. -/
  | openQuote
deriving DecidableEq, Repr

/-- The wording of a fault. -/
def Fault.message : Fault → String
  | openQuote => "missing closing quote"

/-- Where in a command line the reader stands. -/
inductive Mode
  /-- Between words. -/
  | between
  /-- In a word. -/
  | inWord
  /-- Behind a backslash that may begin a word. -/
  | escapedBetween
  /-- Behind a backslash in a word. -/
  | escapedInWord
  /-- In single quotes. -/
  | single
  /-- In double quotes. -/
  | double
  /-- Behind a backslash in double quotes. -/
  | escapedDouble
  /-- In a comment. -/
  | comment
deriving DecidableEq, Repr

/-- Whether a character separates words. -/
def isSeparator (c : Char) : Bool := c == ' ' || c == '\t' || c == '\n'

/-- Whether a backslash in double quotes makes a character stand for itself. -/
def isEscapable (c : Char) : Bool := c == '$' || c == '\x60' || c == '"' || c == '\\'

/-- What one character does: the mode after it, the characters it adds to the word, and whether it
ends the word. -/
def step (m : Mode) (c : Char) : Mode × List Char × Bool :=
  match m with
  | .between =>
    if c == '\'' then (.single, [], false)
    else if c == '"' then (.double, [], false)
    else if c == '\\' then (.escapedBetween, [], false)
    else if isSeparator c then (.between, [], false)
    else if c == '#' then (.comment, [], false)
    else (.inWord, [c], false)
  | .inWord =>
    if c == '\'' then (.single, [], false)
    else if c == '"' then (.double, [], false)
    else if c == '\\' then (.escapedInWord, [], false)
    else if isSeparator c then (.between, [], true)
    else (.inWord, [c], false)
  | .escapedBetween => if c == '\n' then (.between, [], false) else (.inWord, [c], false)
  | .escapedInWord => if c == '\n' then (.inWord, [], false) else (.inWord, [c], false)
  | .single => if c == '\'' then (.inWord, [], false) else (.single, [c], false)
  | .double =>
    if c == '"' then (.inWord, [], false)
    else if c == '\\' then (.escapedDouble, [], false)
    else (.double, [c], false)
  | .escapedDouble =>
    if c == '\n' then (.double, [], false)
    else if isEscapable c then (.double, [c], false)
    else (.double, ['\\', c], false)
  | .comment => if c == '\n' then (.between, [], false) else (.comment, [], false)

/-- What the end of the command line does: the last word, if one is open. -/
def finish (m : Mode) (word : List Char) : Except Fault (List (List Char)) :=
  match m with
  | .between | .comment => .ok []
  | .inWord => .ok [word]
  | .escapedBetween | .escapedInWord => .ok [word ++ ['\\']]
  | .single | .double | .escapedDouble => .error .openQuote

/-- The words from a mode and the beginning of a word on. -/
def splitFrom (m : Mode) (word : List Char) : List Char → Except Fault (List (List Char))
  | [] => finish m word
  | c :: rest =>
    let (next, added, ends) := step m c
    if ends then (splitFrom next [] rest).map (word :: ·)
    else splitFrom next (word ++ added) rest

/-- The words of a command line. -/
def split (s : String) : Except Fault (List String) :=
  (splitFrom .between [] s.toList).map (·.map String.ofList)

end StandardsGate.Words
