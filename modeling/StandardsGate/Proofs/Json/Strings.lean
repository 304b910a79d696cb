import StandardsGate.Json.Reader
import StandardsGate.Json.Writer

/-!
Strings that are written and read again.

Main results:

* `Json.readString_escapeChar` — a character is read as it was written;
* `Json.readString_quote` — **reading undoes quoting**.
-/

namespace StandardsGate.Json

/-- The escape of a control character is read as that character. -/
theorem hex4?_control {n : Nat} (h : n < 0x20) :
    hex4? '0' '0' (hexChar (n / 16)) (hexChar (n % 16)) = some n := by
  revert n
  decide

theorem readString_of_plain {c : Char} (hquote : c ≠ '"') (hback : c ≠ '\\')
    (hhigh : ¬ c.toNat < 0x20) (acc rest : List Char) :
    readString acc (c :: rest) = readString (c :: acc) rest := by
  rw [readString.eq_def]
  split <;> rename_i heq
  · cases heq
  · exact absurd (List.cons.inj heq).1 hquote
  · exact absurd (List.cons.inj heq).1 hback
  · exact absurd (List.cons.inj heq).1 hback
  · obtain ⟨rfl, rfl⟩ := List.cons.inj heq
    rw [if_neg hhigh]

theorem readString_of_short {c e : Char} (hu : c ≠ 'u') (he : shortEscape? c = some e)
    (acc rest : List Char) :
    readString acc ('\\' :: c :: rest) = readString (e :: acc) rest := by
  rw [readString.eq_def]
  split <;> rename_i heq
  · cases heq
  · cases heq
  · exact absurd (List.cons.inj (List.cons.inj heq).2).1 hu
  · obtain ⟨-, htail⟩ := List.cons.inj heq
    obtain ⟨rfl, rfl⟩ := List.cons.inj htail
    rw [he]
  · rename_i hno
    obtain ⟨rfl, rfl⟩ := List.cons.inj heq
    exact (hno _ _ rfl rfl).elim

theorem readString_of_hex {a b c d : Char} {n : Nat} (hn : hex4? a b c d = some n)
    (hlow : n < 0xD800) (acc rest : List Char) :
    readString acc ('\\' :: 'u' :: a :: b :: c :: d :: rest) = readString (charOf n :: acc) rest := by
  rw [readString, hn]
  dsimp only
  rw [if_neg (by simp; omega), if_neg (by simp; omega)]

/-- A character is read as it was written. -/
theorem readString_escapeChar (acc : List Char) (c : Char) (rest : List Char) :
    readString acc (escapeChar c ++ rest) = readString (c :: acc) rest := by
  unfold escapeChar
  split
  case h_8 hquote hback _ _ _ _ _ =>
    split
    · rename_i hlow
      have hchar : charOf c.toNat = c := Char.ofNat_toNat c
      rw [List.cons_append, List.cons_append, List.cons_append, List.cons_append, List.cons_append,
        List.singleton_append, readString_of_hex (hex4?_control hlow) (by omega), hchar]
    · rename_i hhigh
      exact readString_of_plain hquote hback hhigh acc rest
  all_goals exact readString_of_short (by decide) rfl acc rest

/-- **Reading undoes quoting.** -/
theorem readString_quote (s : String) (rest : List Char) :
    readString [] (s.toList.flatMap escapeChar ++ '"' :: rest) = .ok (s, rest) := by
  have hread : ∀ (cs acc : List Char), readString acc (cs.flatMap escapeChar ++ '"' :: rest) =
      .ok (String.ofList (acc.reverse ++ cs), rest) := by
    intro cs
    induction cs with
    | nil =>
        intro acc
        rw [List.flatMap_nil, List.nil_append, readString, List.append_nil]
    | cons c cs ih =>
        intro acc
        rw [List.flatMap_cons, List.append_assoc, readString_escapeChar, ih]
        simp
  rw [hread, List.reverse_nil, List.nil_append, String.ofList_toList]

end StandardsGate.Json
