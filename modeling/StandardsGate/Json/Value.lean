import StandardsGate.Numeric.Double
import StandardsGate.SortedMap

/-!
JSON values.

An object keeps its members sorted by key, and a key has one member: of several, the last.

Main definitions:

* `Json` — the values;
* `Json.ofMembers` — objects from members in any order;
* `Json.get?` — the member of a key.
-/

namespace StandardsGate

/-- A JSON value. Whole numbers of 64 bits are exact; every other number is a double. -/
inductive Json
  | null
  | bool (b : Bool)
  | int (n : Int)
  | float (x : Double)
  | str (s : String)
  | arr (items : List Json)
  | obj (members : List (String × Json))
deriving Repr, Inhabited

namespace Json

/-- The object of members in the order of writing: a later one replaces an earlier one. -/
def ofMembers (ms : List (String × Json)) : Json :=
  obj (SortedMap.ofList ms).entries

/-- The member of a key; `none` for other values than objects. -/
def get? (key : String) : Json → Option Json
  | obj members => members.lookup key
  | _ => none

/-- The text, if the value is one. -/
def str? : Json → Option String
  | str s => some s
  | _ => none

/-- Whether the value is an array. -/
def isArray : Json → Bool
  | arr _ => true
  | _ => false

/-- The items, if the value is an array. -/
def arr? : Json → Option (List Json)
  | arr items => some items
  | _ => none

end Json

end StandardsGate
