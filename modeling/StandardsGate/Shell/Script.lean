/-!
Shell scripts as trees.

A script is a list of steps. A step is a pipeline of commands, and says on which outcome of the step
before it it runs.

Main definitions:

* `Shell.Piece`, `Shell.Word` — what words are made of, before expansion;
* `Shell.Command`, `Shell.Step`, `Shell.Script` — commands and their sequence.
-/

namespace StandardsGate.Shell

/-- On which outcome of the step before it a step runs. -/
inductive Join
  | always
  | onSuccess
  | onFailure
deriving DecidableEq, Repr, Inhabited

/-- Where a redirection leads to or comes from. -/
inductive Direction
  | input
  | output
  | append
  | duplicate
deriving DecidableEq, Repr, Inhabited

mutual

/-- A piece of a word. What comes out of a quoted piece is not divided into fields. -/
inductive Piece
  | text (cs : List Char) (quoted : Bool)
  | param (name : List Char) (use : Use) (quoted : Bool)
  | output (script : List Step) (quoted : Bool)
  | number (expression : List Piece) (quoted : Bool)

/-- What is made of the value of a parameter. -/
inductive Use
  | value
  | length
  /-- The value without what a pattern matches at one end. -/
  | cut (front longest : Bool) (pattern : List Piece)
  /-- The word in the place of a value that is not set, or is empty. -/
  | instead (emptyToo : Bool) (word : List Piece)
  /-- The same, and the parameter is set to it. -/
  | setInstead (emptyToo : Bool) (word : List Piece)
  /-- The word if there is a value, and nothing otherwise. -/
  | alternative (emptyToo : Bool) (word : List Piece)

/-- A redirection of a numbered stream. -/
inductive Redirect
  | mk (stream : Nat) (direction : Direction) (target : List Piece)

/-- A command. -/
inductive Command
  | simple (line : Nat) (settings : List (List Char × List Piece)) (words : List (List Piece))
      (redirects : List Redirect)
  | group (body : List Step)
  | apart (body : List Step)
  | branch (arms : List (List Step × List Step)) (otherwise : List Step)
  | repeat_ (untilTrue : Bool) (condition body : List Step)
  | each (name : List Char) (words : Option (List (List Piece))) (body : List Step)
  | choice (word : List Piece) (arms : List (List (List Piece) × List Step))
  | redirected (command : Command) (redirects : List Redirect)

/-- A pipeline of commands with its condition. -/
inductive Step
  | mk (join : Join) (negated : Bool) (commands : List Command)

end

/-- A word before expansion. -/
abbrev Word := List Piece

/-- A script. -/
abbrev Script := List Step

instance : Inhabited Piece := ⟨.text [] false⟩
instance : Inhabited Command := ⟨.group []⟩
instance : Inhabited Step := ⟨.mk .always false []⟩

end StandardsGate.Shell
