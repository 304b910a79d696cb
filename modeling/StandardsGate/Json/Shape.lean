import StandardsGate.Json.Writer
import StandardsGate.Text.Quoted

/-!
Reading values of a known shape off JSON values.

Main definitions:

* `Json.Mismatch` — how a value can fail to have a shape, with its wording;
* `Json.text`, `Json.count`, `Json.items` — a text, a number that counts something, an array;
* `Json.record` — an object with known members, or an array that has as many items.
-/

namespace StandardsGate.Json

/-- How a value fails to have a shape. -/
inductive Mismatch
  /-- The value is of another kind than the one wanted. -/
  | kind (found : Json) (wanted : String)
  /-- The value is of the right kind but out of range. -/
  | range (found : Json) (wanted : String)
  /-- A member that must be there is not. -/
  | missing (member : String)
  /-- An array stands for a record and has too few items. -/
  | tooShort (length : Nat) (wanted : String)
  /-- An array stands for a record and has too many items. -/
  | tooLong (length : Nat)
deriving Repr

/-- What a value is called in a message. -/
def describe : Json → String
  | null => "null"
  | bool b => "boolean \x60" ++ (if b then "true" else "false") ++ "\x60"
  | int n => "integer \x60" ++ toString n ++ "\x60"
  | float x => "floating point \x60" ++ String.ofList (floatText x) ++ "\x60"
  | str s => "string " ++ Text.quoted s
  | arr _ => "sequence"
  | obj _ => "map"

/-- The wording of a mismatch. -/
def Mismatch.message : Mismatch → String
  | kind found wanted => "invalid type: " ++ found.describe ++ ", expected " ++ wanted
  | range found wanted => "invalid value: " ++ found.describe ++ ", expected " ++ wanted
  | missing member => "missing field \x60" ++ member ++ "\x60"
  | tooShort length wanted =>
    "invalid length " ++ toString length ++ ", expected " ++ wanted
  | tooLong length => "invalid length " ++ toString length ++ ", expected fewer elements in array"

/-- A text. -/
def text : Json → Except Mismatch String
  | str s => .ok s
  | v => .error (.kind v "a string")

/-- A number that counts something. It has 64 bits. -/
def count : Json → Except Mismatch Nat
  | int n => if 0 ≤ n then .ok n.toNat else .error (.range (int n) "usize")
  | v => .error (.kind v "usize")

/-- The items of an array. -/
def items : Json → Except Mismatch (List Json)
  | arr items => .ok items
  | v => .error (.kind v "a sequence")

/-- A value that may be null. -/
def optional {α : Type} (read : Json → Except Mismatch α) : Json → Except Mismatch (Option α)
  | null => .ok none
  | v => (read v).map some

/-- A record: an object gives the members by name, an array gives them in the order of the names
and has no others. `read` makes the record out of the members that are there; its first argument is
the mismatch for a member, by name and place, that has to be there and is not. -/
def record {α : Type} (title : String) (names : List String)
    (read : (String → Nat → Mismatch) → List (Option Json) → Except Mismatch α) :
    Json → Except Mismatch α
  | obj members => read (fun name _ => .missing name) (names.map fun n => members.lookup n)
  | arr items => do
    let wanted := "struct " ++ title ++ " with " ++ toString names.length ++ " elements"
    let a ← read (fun _ place => .tooShort place wanted) (names.mapIdx fun i _ => items[i]?)
    if names.length < items.length then throw (.tooLong items.length)
    return a
  | v => .error (.kind v ("struct " ++ title))

end StandardsGate.Json
