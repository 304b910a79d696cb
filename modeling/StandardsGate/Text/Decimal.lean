/-!
Decimal digits.

Main definitions:

* `Text.decimalValue` — the number that digits stand for.
-/

namespace StandardsGate.Text

/-- The number that decimal digits stand for; no digits stand for zero. -/
def decimalValue (ds : List Char) : Nat := ds.foldl (fun n d => n * 10 + (d.toNat - '0'.toNat)) 0

end StandardsGate.Text
