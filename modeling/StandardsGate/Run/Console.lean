/-!
What a run prints.

Main definitions:

* `ConsoleLine` — the lines, by what they say;
* `ConsoleLine.render` — a line as it is printed, with or without colours;
* `startLines`, `finishLines` — the banners at the beginning and at the end of a run.
-/

namespace StandardsGate

/-- The banners. -/
inductive Banner
  | start
  | accepted
  | rejected
deriving DecidableEq, Repr, Inhabited

/-- A printed line. -/
inductive ConsoleLine
  | blank
  /-- A line of a banner. -/
  | banner (b : Banner) (text : String)
  /-- How many hunks had headers that could not be read. -/
  | malformed (count : Nat)
  /-- The heading of a standard. -/
  | standard (name : String)
  /-- The heading of a checker's messages. -/
  | violations (checker : String)
  | message (text : String)
deriving DecidableEq, Repr, Inhabited

/-- How wide banners are. -/
def bannerWidth : Nat := 29

/-- A text with blanks on both sides up to a width, one more at the right if need be. -/
def centered (width : Nat) (s : String) : String :=
  let room := width - s.length
  let left := List.replicate (room / 2) ' '
  let right := List.replicate (room - room / 2) ' '
  String.ofList (left ++ s.toList ++ right)

/-- A text in a colour that is switched off again by its own code. -/
def inColour (code : String) (s : String) : String := "\x1b[" ++ code ++ "m" ++ s ++ "\x1b[39m"

/-- A text on a coloured ground. -/
def onGround (codes : String) (s : String) : String := "\x1b[" ++ codes ++ "m" ++ s ++ "\x1b[0m"

/-- The colours of a banner: black on cyan, black on green, white on red. -/
def Banner.codes : Banner → String
  | start => "30;46"
  | accepted => "30;42"
  | rejected => "37;41"

namespace ConsoleLine

/-- The text of a line. -/
def text : ConsoleLine → String
  | blank => ""
  | banner _ text => centered bannerWidth text
  | malformed count =>
    "warning: " ++ toString count ++
      " hunk header(s) could not be read; their lines are numbered from 0"
  | standard name => name ++ " standard check..."
  | violations checker => checker ++ " found the following errors"
  | message text => text

/-- A line as it is printed. -/
def render (coloured : Bool) (l : ConsoleLine) : String :=
  if !coloured then l.text
  else match l with
    | banner b _ => onGround b.codes l.text
    | malformed _ => inColour "33" l.text
    | standard _ => inColour "32" l.text
    | violations _ => onGround "30;43" l.text
    | _ => l.text

/-- Lines as they are printed. -/
def renderAll (coloured : Bool) (ls : List ConsoleLine) : String :=
  String.join (ls.map fun l => l.render coloured ++ "\n")

end ConsoleLine

/-- The lines of a banner. -/
def Banner.lines : Banner → List ConsoleLine
  | start => ["", "PRE-COMMIT HOOK", ""].map (.banner .start)
  | accepted => ["", "COMMIT ACCEPTED", ""].map (.banner .accepted)
  | rejected => ["", "COMMIT REJECTED", "(git commit --no-verify)", ""].map (.banner .rejected)

/-- What is printed at the beginning of a run. -/
def startLines : List ConsoleLine := Banner.start.lines ++ [.blank]

/-- What is printed at the end of a run. -/
def finishLines (accepted : Bool) : List ConsoleLine :=
  .blank :: if accepted then Banner.accepted.lines else Banner.rejected.lines

/-- What is printed of a checker's messages. -/
def violationLines (checker : String) (messages : List String) : List ConsoleLine :=
  .violations checker :: messages.map .message

end StandardsGate
