import StandardsGate.Lint.Staging
import StandardsGate.Proofs.Json.RoundTrip
import StandardsGate.Proofs.Text.Utf8

/-!
What the copy of a configuration extends.

A copy is its source but for the entries that are renamed. Where entries are renamed the copy is
written anew, and what is read of it extends what was meant: doubles may be read as others than were
written, but entries are texts.

Main definitions:

* `Staging.renamed` — an entry as it stands in the copy;
* `Staging.ConfigAs` — a configuration and another one that differs in its entries only.

Main results:

* `Staging.extendsEntries_copyContent` — **what a copy extends**;
* `Staging.configAs_copyContent` — **a copy differs from its source in its entries only**.
-/

namespace StandardsGate.Staging

open Json

/-- An entry under its new name, if it has one. -/
def renamed (renames : SortedMap String) (entry : String) : String :=
  (renames.get? entry).getD entry

@[simp] theorem renamed_empty (entry : String) : renamed ∅ entry = entry := rfl

/-! ### Entries of a value -/

variable {renames : SortedMap String} {v v' : Json} {content : Bytes}

theorem str?_renameEntry (renames : SortedMap String) (v : Json) :
    (renameEntry renames v).str? = v.str?.map (renamed renames) := by
  cases v <;> rfl

theorem lookup_renameMember (renames : SortedMap String) (members : List (String × Json)) :
    (members.map (renameMember renames)).lookup extendsKey =
      (members.lookup extendsKey).map fun v => (renameMember renames (extendsKey, v)).2 := by
  induction members with
  | nil => rfl
  | cons m members ih =>
      obtain ⟨k, v⟩ := m
      have hkey : (renameMember renames (k, v)).1 = k := by
        unfold renameMember
        dsimp only
        split
        · split <;> rfl
        · rfl
      have hpair : renameMember renames (k, v) = (k, (renameMember renames (k, v)).2) :=
        Prod.ext hkey rfl
      rw [List.map_cons, hpair, lookup_cons_ite, lookup_cons_ite, ih]
      by_cases hk : extendsKey = k
      · subst hk
        rw [if_pos rfl, if_pos rfl]
        rfl
      · rw [if_neg hk, if_neg hk]

/-- The entries of a value that is renamed. -/
theorem entriesOf_renameExtends (renames : SortedMap String) (v : Json) :
    entriesOf (renameExtends renames v) = (entriesOf v).map (renamed renames) := by
  have hitems : ∀ items : List Json, (items.map (renameEntry renames)).filterMap str? =
      (items.filterMap str?).map (renamed renames) := by
    intro items
    rw [List.filterMap_map, List.map_filterMap]
    exact congrArg (List.filterMap · items) (funext (str?_renameEntry renames))
  cases v with
  | obj members =>
      have hget : (renameExtends renames (.obj members)).get? extendsKey =
          ((Json.obj members).get? extendsKey).map
            fun v => (renameMember renames (extendsKey, v)).2 := lookup_renameMember renames members
      unfold entriesOf
      rw [hget]
      cases (Json.obj members).get? extendsKey with
      | none => rfl
      | some w =>
          cases w with
          | arr items => exact hitems items
          | null | bool | int | float | str | obj => rfl
  | null | bool | int | float | str | arr => rfl

/-! ### Entries of a value that is read again -/

theorem str?_of_resembles (h : Resembles v v') : v'.str? = v.str? := by
  cases h with
  | refl | null | empty | arr | obj => rfl
  | number x hv => rcases hv with ⟨n, rfl, -⟩ | ⟨x, rfl⟩ <;> rfl

theorem filterMap_str?_of_resembles {items items' : List Json}
    (h : List.Forall₂ Resembles items items') :
    items'.filterMap str? = items.filterMap str? := by
  induction h with
  | nil => rfl
  | cons hv _ ih => rw [List.filterMap_cons, List.filterMap_cons, str?_of_resembles hv, ih]

/-- Of members that resemble others, those of one key resemble each other. -/
theorem rel_lookup_of_resembles (key : String) {members members' : List (String × Json)}
    (hkeys : members'.map Prod.fst = members.map Prod.fst)
    (hvalues : List.Forall₂ Resembles (members.map Prod.snd) (members'.map Prod.snd)) :
    Option.Rel Resembles (members.lookup key) (members'.lookup key) := by
  induction members generalizing members' with
  | nil =>
      obtain rfl := List.map_eq_nil_iff.1 hkeys
      exact .none
  | cons m members ih =>
      cases members' with
      | nil => cases hkeys
      | cons m' members' =>
          obtain ⟨hm, hkeys'⟩ := List.cons.inj hkeys
          obtain ⟨hv, hvalues'⟩ := List.forall₂_cons.1 hvalues
          obtain ⟨k, v⟩ := m
          obtain ⟨k', v'⟩ := m'
          obtain rfl : k' = k := hm
          rw [lookup_cons_ite, lookup_cons_ite]
          by_cases hk : key = k'
          · rw [if_pos hk, if_pos hk]
            exact .some hv
          · rw [if_neg hk, if_neg hk]
            exact ih hkeys' hvalues'

theorem entriesOf_of_resembles (h : Resembles v v') : entriesOf v' = entriesOf v := by
  cases h with
  | refl | null | empty | arr => rfl
  | number x hv => rcases hv with ⟨n, rfl, -⟩ | ⟨x, rfl⟩ <;> rfl
  | @obj members members' hkeys hvalues =>
      have hrel := rel_lookup_of_resembles extendsKey hkeys hvalues
      unfold entriesOf
      simp only [get?]
      revert hrel
      generalize members.lookup extendsKey = found, members'.lookup extendsKey = found'
      intro hrel
      cases hrel with
      | none => rfl
      | @some w w' hw =>
          cases hw with
          | refl | null | empty | obj => rfl
          | arr hitems => exact filterMap_str?_of_resembles hitems
          | number x hv => rcases hv with ⟨n, rfl, -⟩ | ⟨x, rfl⟩ <;> rfl

/-! ### Copies -/

theorem readable_of_valueOf? (h : valueOf? content = some v) : Readable depthLimit v := by
  obtain ⟨s, -, hs⟩ := Option.bind_eq_some_iff.1 h
  exact readable_of_parse (eq_ok_of_toOption hs)

theorem valueOf?_encode (s : String) : valueOf? (Utf8.encode s) = (parse s).toOption := by
  rw [valueOf?, Utf8.decode?_encode]
  rfl

theorem extendsEntries_of_valueOf? (h : valueOf? content = some v) :
    extendsEntries content = entriesOf v := by
  rw [extendsEntries, h]

theorem copyContent_of_isEmpty (h : renames.entries.isEmpty = true) :
    copyContent content renames = content := by
  rw [copyContent, if_pos h]

theorem renames_eq_empty (h : renames.entries.isEmpty = true) : renames = ∅ := by
  obtain ⟨entries, hentries⟩ := renames
  obtain rfl := List.isEmpty_iff.1 h
  rfl

theorem copyContent_of_valueOf? (h : renames.entries.isEmpty = false)
    (hv : valueOf? content = some v) :
    copyContent content renames = Utf8.encode (renameExtends renames v).pretty := by
  rw [copyContent, h, if_neg Bool.false_ne_true, hv]

theorem copyContent_of_none (h : valueOf? content = none) :
    copyContent content renames = content := by
  unfold copyContent
  rw [h]
  split <;> rfl

theorem readable_renameEntry {depth : Nat} (h : Readable depth v) :
    Readable depth (renameEntry renames v) := by
  cases v with
  | str s => exact .str depth _
  | null | bool | int | float | arr | obj => exact h

theorem renameMember_fst (m : String × Json) : (renameMember renames m).1 = m.1 := by
  unfold renameMember
  split
  · split <;> rfl
  · rfl

theorem readable_renameMember {depth : Nat} {m : String × Json} (h : Readable depth m.2) :
    Readable depth (renameMember renames m).2 := by
  unfold renameMember
  split
  · split
    · rename_i items hitems
      rw [hitems] at h
      cases h with
      | arr hdepth hitems =>
          refine .arr hdepth fun w hw => ?_
          obtain ⟨w', hw', rfl⟩ := List.mem_map.1 hw
          exact readable_renameEntry (hitems w' hw')
    · exact readable_renameEntry h
  · exact h

theorem readable_renameExtends {depth : Nat} (h : Readable depth v) :
    Readable depth (renameExtends renames v) := by
  cases h with
  | null | bool | int | float | str | arr => constructor <;> assumption
  | obj hdepth hsorted hmembers =>
      refine .obj hdepth ?_ fun m hm => ?_
      · rw [List.pairwise_map]
        simpa only [renameMember_fst] using hsorted
      · obtain ⟨m', hm', rfl⟩ := List.mem_map.1 hm
        exact readable_renameMember (hmembers m' hm')

theorem isWhole_renameEntry (h : IsWhole v) : IsWhole (renameEntry renames v) := by
  cases v with
  | str s => exact .str _
  | null | bool | int | float | arr | obj => exact h

theorem isWhole_renameMember {m : String × Json} (h : IsWhole m.2) :
    IsWhole (renameMember renames m).2 := by
  unfold renameMember
  split
  · split
    · rename_i items hitems
      rw [hitems] at h
      cases h with
      | arr hitems =>
          refine .arr fun w hw => ?_
          obtain ⟨w', hw', rfl⟩ := List.mem_map.1 hw
          exact isWhole_renameEntry (hitems w' hw')
    · exact isWhole_renameEntry h
  · exact h

theorem isWhole_renameExtends (h : IsWhole v) : IsWhole (renameExtends renames v) := by
  cases h with
  | null | bool | int | str | arr => constructor <;> assumption
  | obj hmembers =>
      refine .obj fun m hm => ?_
      obtain ⟨m', hm', rfl⟩ := List.mem_map.1 hm
      exact isWhole_renameMember (hmembers m' hm')

/-- What is read of a copy that is written anew. -/
theorem valueOf?_copyContent (h : renames.entries.isEmpty = false)
    (hv : valueOf? content = some v) (hwhole : IsWhole v) :
    valueOf? (copyContent content renames) = some (renameExtends renames v) := by
  have hparse : parse (renameExtends renames v).pretty = .ok (renameExtends renames v) :=
    parse_pretty (readable_renameExtends (readable_of_valueOf? hv)) (isWhole_renameExtends hwhole)
  rw [copyContent_of_valueOf? h hv, valueOf?_encode, hparse]
  rfl

/-- **What a copy extends**: the entries of its source as they are renamed. It might extend nothing if
there are doubles in the source. -/
theorem extendsEntries_copyContent (content : Bytes) (renames : SortedMap String) :
    extendsEntries (copyContent content renames) = (extendsEntries content).map (renamed renames) ∨
      extendsEntries (copyContent content renames) = [] ∧
        ∃ v, valueOf? content = some v ∧ ¬ IsWhole v := by
  cases hempty : renames.entries.isEmpty with
  | true =>
      obtain rfl := renames_eq_empty hempty
      rw [copyContent_of_isEmpty hempty, List.map_congr_left fun e _ => renamed_empty e, List.map_id']
      exact .inl rfl
  | false =>
      cases hv : valueOf? content with
      | none =>
          rw [copyContent_of_none hv, extendsEntries, hv]
          exact .inl rfl
      | some v =>
          rw [extendsEntries_of_valueOf? hv, ← entriesOf_renameExtends]
          by_cases hwhole : IsWhole v
          · exact .inl (extendsEntries_of_valueOf? (valueOf?_copyContent hempty hv hwhole))
          · cases hread : parse (renameExtends renames v).pretty with
            | error fault =>
                refine .inr ⟨?_, v, rfl, hwhole⟩
                rw [copyContent_of_valueOf? hempty hv, extendsEntries, valueOf?_encode, hread]
                rfl
            | ok w =>
                refine .inl ?_
                have hreadable : Readable depthLimit (renameExtends renames v) :=
                  readable_renameExtends (readable_of_valueOf? hv)
                rw [copyContent_of_valueOf? hempty hv, extendsEntries, valueOf?_encode, hread]
                exact entriesOf_of_resembles (resembles_of_parse_pretty hreadable hread)

/-! ### Configurations that differ in their entries -/

/-- An item of an array and the one in its place, an entry being replaced by one that it is related
to. -/
inductive ItemAs (R : String → String → Prop) : Json → Json → Prop
  | entry {e e' : String} (h : R e e') : ItemAs R (.str e) (.str e')
  | other {v : Json} (h : v.str? = none) : ItemAs R v v

/-- What a configuration extends and what stands in its place. -/
inductive ExtendsAs (R : String → String → Prop) : Json → Json → Prop
  | entry {e e' : String} (h : R e e') : ExtendsAs R (.str e) (.str e')
  | entries {items items' : List Json} (h : List.Forall₂ (ItemAs R) items items') :
      ExtendsAs R (.arr items) (.arr items')
  | other {v : Json} (h : v.str? = none) (h' : v.isArray = false) : ExtendsAs R v v

/-- A member of a configuration and the one in its place. -/
def MemberAs (R : String → String → Prop) (m m' : String × Json) : Prop :=
  m'.1 = m.1 ∧ (m.1 = extendsKey → ExtendsAs R m.2 m'.2) ∧ (m.1 ≠ extendsKey → m'.2 = m.2)

/-- A configuration and one that has, in the places of its entries, entries that they are related to,
and is the same otherwise. -/
inductive ConfigAs (R : String → String → Prop) : Json → Json → Prop
  | obj {members members' : List (String × Json)} (h : List.Forall₂ (MemberAs R) members members') :
      ConfigAs R (.obj members) (.obj members')
  | other {v : Json} (h : ∀ members, v ≠ .obj members) : ConfigAs R v v

variable {R : String → String → Prop}

theorem itemAs_renameEntry (h : ∀ e, v = .str e → R e (renamed renames e)) :
    ItemAs R v (renameEntry renames v) := by
  cases v with
  | str e => exact .entry (h e rfl)
  | null | bool | int | float | arr | obj => exact .other rfl

theorem extendsAs_renameMember
    (h : ∀ e ∈ entriesOf (.obj [(extendsKey, v)]), R e (renamed renames e)) :
    ExtendsAs R v (renameMember renames (extendsKey, v)).2 := by
  cases v with
  | str e => exact .entry (h e List.mem_cons_self)
  | arr items =>
      have hitems : ∀ e ∈ items.filterMap str?, R e (renamed renames e) := h
      refine .entries (List.forall₂_map_right_iff.2 (List.forall₂_same.2 fun w hw => ?_))
      refine itemAs_renameEntry fun e he => hitems e ?_
      exact List.mem_filterMap.2 ⟨w, hw, by rw [he]; rfl⟩
  | null | bool | int | float | obj => exact .other rfl rfl

theorem configAs_renameExtends {depth : Nat} (hv : Readable depth v)
    (h : ∀ e ∈ entriesOf v, R e (renamed renames e)) : ConfigAs R v (renameExtends renames v) := by
  cases hv with
  | null | bool | int | float | str | arr => exact .other fun members hm => by cases hm
  | @obj _ members _ hsorted _ =>
      refine .obj (List.forall₂_map_right_iff.2 (List.forall₂_same.2 fun m hm => ?_))
      obtain ⟨k, w⟩ := m
      refine ⟨renameMember_fst _, fun hk => ?_, fun hk => ?_⟩
      · obtain rfl : k = extendsKey := hk
        have hlookup : members.lookup extendsKey = some w :=
          SortedMap.get?_of_mem (m := ⟨members, hsorted⟩) hm
        have hentries : entriesOf (.obj members) = entriesOf (.obj [(extendsKey, w)]) := by
          have hget : (Json.obj members).get? extendsKey =
              (Json.obj [(extendsKey, w)]).get? extendsKey := hlookup
          unfold entriesOf
          rw [hget]
        exact extendsAs_renameMember (hentries ▸ h)
      · exact congrArg Prod.snd (if_neg hk)

theorem renameExtends_empty (v : Json) : renameExtends ∅ v = v := by
  have hentry : renameEntry (∅ : SortedMap String) = id := by
    funext w
    cases w <;> rfl
  have hmember : renameMember (∅ : SortedMap String) = id := by
    funext m
    obtain ⟨k, w⟩ := m
    unfold renameMember
    dsimp only
    split
    · split
      · rw [hentry, List.map_id]
        rfl
      · rw [hentry]
        rfl
    · rfl
  cases v with
  | obj members => rw [renameExtends, hmember, List.map_id]
  | null | bool | int | float | str | arr => rfl

/-- **A copy differs from its source in its entries only**, and these are related if they are related
to what they are renamed to. -/
theorem configAs_copyContent (hv : valueOf? content = some v) (hwhole : IsWhole v)
    (h : ∀ e ∈ extendsEntries content, R e (renamed renames e)) :
    ∃ v', valueOf? (copyContent content renames) = some v' ∧ ConfigAs R v v' := by
  rw [extendsEntries_of_valueOf? hv] at h
  refine ⟨renameExtends renames v, ?_, configAs_renameExtends (readable_of_valueOf? hv) h⟩
  cases hempty : renames.entries.isEmpty with
  | true =>
      rw [copyContent_of_isEmpty hempty, hv, renames_eq_empty hempty, renameExtends_empty]
  | false => exact valueOf?_copyContent hempty hv hwhole

end StandardsGate.Staging
