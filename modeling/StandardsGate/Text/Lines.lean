/-!
Texts as lines.

Main definitions:

* `Text.splitOn` — the parts between the occurrences of one character, at least one;
* `Text.joinWith` — the inverse, parts with a separator between them;
* `Text.lines` — the lines of a text, each ended by a line feed or by a carriage return and a line
  feed; a text that ends in a line feed has no empty line after it.
-/

namespace StandardsGate.Text

/-- Puts a character in front of the first part. -/
def consHead (c : Char) : List (List Char) → List (List Char)
  | [] => [[c]]
  | part :: parts => (c :: part) :: parts

/-- The parts of a text between the occurrences of `sep`. -/
def splitOn (sep : Char) : List Char → List (List Char)
  | [] => [[]]
  | c :: rest => if c = sep then [] :: splitOn sep rest else consHead c (splitOn sep rest)

/-- The parts with `sep` between them. -/
def joinWith (sep : List Char) : List (List Char) → List Char
  | [] => []
  | [part] => part
  | part :: parts => part ++ sep ++ joinWith sep parts

@[simp] theorem splitOn_ne_nil (sep : Char) (cs : List Char) : splitOn sep cs ≠ [] := by
  cases cs with
  | nil => simp [splitOn]
  | cons c rest =>
    unfold splitOn
    split
    · simp
    · cases splitOn sep rest <;> simp [consHead]

theorem joinWith_consHead (sep : List Char) (c : Char) {parts : List (List Char)}
    (h : parts ≠ []) : joinWith sep (consHead c parts) = c :: joinWith sep parts := by
  match parts, h with
  | [part], _ => rfl
  | part :: next :: rest, _ => rfl

/-- Joining the parts again gives the text. -/
theorem joinWith_splitOn (sep : Char) (cs : List Char) :
    joinWith [sep] (splitOn sep cs) = cs := by
  induction cs with
  | nil => rfl
  | cons c rest ih =>
    unfold splitOn
    split
    · rename_i h
      have hne := splitOn_ne_nil sep rest
      cases hs : splitOn sep rest with
      | nil => exact absurd hs hne
      | cons part parts => rw [hs] at ih; simp [joinWith, ih, h]
    · rw [joinWith_consHead _ _ (splitOn_ne_nil sep rest), ih]

/-- A line without the carriage return at its end. -/
def dropReturn (line : List Char) : List Char :=
  match line.reverse with
  | '\r' :: rest => rest.reverse
  | _ => line

/-- The lines of a text. Only a line that a line feed ends loses the carriage return before it. -/
def lines (cs : List Char) : List (List Char) :=
  let parts := splitOn '\n' cs
  let ended := parts.dropLast.map dropReturn
  match parts.getLast? with
  | some (c :: rest) => ended ++ [c :: rest]
  | _ => ended

end StandardsGate.Text
