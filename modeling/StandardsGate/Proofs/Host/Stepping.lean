import StandardsGate.Host.FileTree
import StandardsGate.Proofs.Path

/-!
Walking along a path, segment by segment.

One segment leads on from a directory: it counts for nothing, leads up, or names an entry, which may
be a link. Whatever is to be shown of a walk is shown case by case for its first segment.

Main results:

* `FileTree.walkFrom_induct` — **what holds of a walk if it holds of the walk that is left after its
  first segment**.
-/

namespace StandardsGate

/-- Whether an entry is a link. -/
def Entry.isLink : Entry → Bool
  | .link _ => true
  | _ => false

namespace FileTree

variable {t : FileTree} {followLast : Bool} {links : Nat} {l : Location} {s : List Char}
  {rest : List (List Char)}

theorem walkFrom_nil :
    t.walkFrom followLast links l [] =
      match t.get? l with
      | some e => .ok (.taken l e)
      | none => .error .notFound := by
  cases links <;> rfl

theorem walkFrom_nil_of_some {e : Entry} (h : t.get? l = some e) :
    t.walkFrom followLast links l [] = .ok (.taken l e) := by
  rw [walkFrom_nil, h]

theorem walkFrom_of_ne_directory (h : t.get? l ≠ some .directory) :
    t.walkFrom followLast links l (s :: rest) = .error .notDirectory := by
  cases links <;> exact if_pos h

theorem walkFrom_of_isIdle (h : t.get? l = some .directory) (hs : Path.isIdle s = true) :
    t.walkFrom followLast links l (s :: rest) = t.walkFrom followLast links l rest := by
  cases links <;> exact (if_neg (not_not_intro h)).trans (if_pos hs)

theorem walkFrom_up (h : t.get? l = some .directory) :
    t.walkFrom followLast links l (['.', '.'] :: rest) =
      t.walkFrom followLast links l.dropLast rest := by
  cases links <;> exact (if_neg (not_not_intro h)).trans rfl

/-- Walks on past a name, by the entry that stands at its location. -/
def walkPast (t : FileTree) (followLast : Bool)
    (follow : Location → List (List Char) → Except OsError Place) (l : Location)
    (rest : List (List Char)) : Option Entry → Except OsError Place
  | none => if rest.all List.isEmpty then .ok (.free l) else .error .notFound
  | some (.link target) =>
    if rest.isEmpty && !followLast then .ok (.taken l (.link target))
    else follow (linkStart l.dropLast target) (Text.splitOn '/' target.chars ++ rest)
  | some _ => t.walkWith followLast follow l rest

section EntryName

variable (h : t.get? l = some .directory) (hs : Path.IsEntryName s)
include h hs

theorem walkWith_of_isEntryName {follow : Location → List (List Char) → Except OsError Place} :
    t.walkWith followLast follow l (s :: rest) =
      if nameLimit < byteCount s then .error .nameTooLong
      else t.walkPast followLast follow (l ++ [s]) rest (t.get? (l ++ [s])) := by
  rw [walkWith, if_neg (not_not_intro h), hs.1, if_neg Bool.false_ne_true, if_neg hs.2]
  rcases t.get? (l ++ [s]) with _ | _ | _ | _ <;> simp [walkPast, linkStart]

theorem walkFrom_of_tooLong (hlong : nameLimit < byteCount s) :
    t.walkFrom followLast links l (s :: rest) = .error .nameTooLong := by
  cases links <;> exact (walkWith_of_isEntryName h hs).trans (if_pos hlong)

section Short

variable (hshort : byteCount s ≤ nameLimit)
include hshort

theorem walkWith_of_short {follow : Location → List (List Char) → Except OsError Place} :
    t.walkWith followLast follow l (s :: rest) =
      t.walkPast followLast follow (l ++ [s]) rest (t.get? (l ++ [s])) :=
  (walkWith_of_isEntryName h hs).trans (if_neg (Nat.not_lt.2 hshort))

theorem walkFrom_of_none (he : t.get? (l ++ [s]) = none) :
    t.walkFrom followLast links l (s :: rest) =
      if rest.all List.isEmpty then .ok (.free (l ++ [s])) else .error .notFound := by
  cases links <;> exact (walkWith_of_short h hs hshort).trans (by rw [he]; rfl)

theorem walkFrom_of_entry {e : Entry} (he : t.get? (l ++ [s]) = some e)
    (hlink : e.isLink = false) :
    t.walkFrom followLast links l (s :: rest) =
      t.walkFrom followLast links (l ++ [s]) rest := by
  cases e with
  | link => cases hlink
  | file | directory =>
      cases links <;> exact (walkWith_of_short h hs hshort).trans (by rw [he]; rfl)

/-- A link at the end of a walk that does not follow it. -/
theorem walkFrom_of_last_link {target : Path} (he : t.get? (l ++ [s]) = some (.link target)) :
    t.walkFrom false links l [s] = .ok (.taken (l ++ [s]) (.link target)) := by
  cases links <;> exact (walkWith_of_short h hs hshort).trans (by rw [he]; rfl)

section Following

variable {target : Path} (he : t.get? (l ++ [s]) = some (.link target))
  (hfollow : rest ≠ [] ∨ followLast = true)
include he hfollow

theorem walkWith_of_link {follow : Location → List (List Char) → Except OsError Place} :
    t.walkWith followLast follow l (s :: rest) =
      follow (linkStart l target) (Text.splitOn '/' target.chars ++ rest) := by
  have hkeep : (rest.isEmpty && !followLast) = false := by
    rcases hfollow with hrest | hlast
    · simp [hrest]
    · simp [hlast]
  rw [walkWith_of_short h hs hshort, he, walkPast, hkeep, if_neg Bool.false_ne_true,
    List.dropLast_concat]

theorem walkFrom_of_link_zero :
    t.walkFrom followLast 0 l (s :: rest) = .error .tooManyLinks :=
  walkWith_of_link h hs hshort he hfollow

theorem walkFrom_of_link_succ :
    t.walkFrom followLast (links + 1) l (s :: rest) =
      t.walkFrom followLast links (linkStart l target)
        (Text.splitOn '/' target.chars ++ rest) :=
  walkWith_of_link h hs hshort he hfollow

end Following

end Short

end EntryName

/-- **What holds of a walk if it holds of the walk that is left after its first segment.** -/
theorem walkFrom_induct {motive : Nat → Location → List (List Char) → Prop}
    (done : ∀ links l, motive links l [])
    (blocked : ∀ links l s rest, t.get? l ≠ some .directory → motive links l (s :: rest))
    (idle : ∀ links l s rest, t.get? l = some .directory → Path.isIdle s = true →
      motive links l rest → motive links l (s :: rest))
    (up : ∀ links l rest, t.get? l = some .directory → motive links l.dropLast rest →
      motive links l (['.', '.'] :: rest))
    (long : ∀ links l s rest, t.get? l = some .directory → Path.IsEntryName s →
      nameLimit < byteCount s → motive links l (s :: rest))
    (missing : ∀ links l s rest, t.get? l = some .directory → Path.IsEntryName s →
      byteCount s ≤ nameLimit → t.get? (l ++ [s]) = none → motive links l (s :: rest))
    (entry : ∀ links l s rest e, t.get? l = some .directory → Path.IsEntryName s →
      byteCount s ≤ nameLimit → t.get? (l ++ [s]) = some e → e.isLink = false →
      motive links (l ++ [s]) rest → motive links l (s :: rest))
    (link : ∀ links l s rest target, t.get? l = some .directory → Path.IsEntryName s →
      byteCount s ≤ nameLimit → t.get? (l ++ [s]) = some (.link target) →
      (∀ fewer, links = fewer + 1 →
        motive fewer (linkStart l target) (Text.splitOn '/' target.chars ++ rest)) →
      motive links l (s :: rest)) :
    ∀ links l segments, motive links l segments := by
  intro links
  -- a link leaves fewer links, every other segment leaves fewer segments
  induction links using Nat.strongRecOn with
  | ind links hfewer =>
    intro l segments
    induction segments generalizing l with
    | nil => exact done links l
    | cons s rest hrest =>
        by_cases hl : t.get? l = some .directory
        · by_cases hidle : Path.isIdle s = true
          · exact idle links l s rest hl hidle (hrest l)
          · rw [Bool.not_eq_true] at hidle
            by_cases hup : s = ['.', '.']
            · subst hup
              exact up links l rest hl (hrest l.dropLast)
            · rcases Nat.lt_or_ge nameLimit (byteCount s) with hlong | hshort
              · exact long links l s rest hl ⟨hidle, hup⟩ hlong
              · cases he : t.get? (l ++ [s]) with
                | none => exact missing links l s rest hl ⟨hidle, hup⟩ hshort he
                | some e =>
                    by_cases hlink : e.isLink = true
                    · cases e with
                      | file | directory => cases hlink
                      | link target =>
                          refine link links l s rest target hl ⟨hidle, hup⟩ hshort he ?_
                          rintro fewer rfl
                          exact hfewer fewer (Nat.lt_succ_self _) _ _
                    · exact entry links l s rest e hl ⟨hidle, hup⟩ hshort he
                        (by simpa using hlink) (hrest _)
        · exact blocked links l s rest hl

end FileTree

end StandardsGate
