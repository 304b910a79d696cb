import StandardsGate.Event.Log
import StandardsGate.Proofs.Event.Times
import StandardsGate.Proofs.Json.Compact
import StandardsGate.Proofs.Text.Utf8

/-!
Events that are written and read again.

An event is written as an object with its members in the order of their declaration, those that it
does not have being left out. Reading finds the members by their names, so their order does not
matter, and what was left out is restored. A line of the log holds nothing but such an object: since
there are no control characters in it, no line ends within it.

Main definitions:

* `Event.Legible` — the events that can be read again: times of the years 0 to 9999, and details
  without doubles that nest so deep at most that the reader follows them one level down.

Main results:

* `Event.ofJson_ofMembers` — what is read of the members of an event;
* `Event.ofLine?_line` — **an event is read as it was written**;
* `Event.ofLine?_line_iff` — how deep its details may nest for that;
* `Event.printable_line` — **an event takes one line**, whatever it says.
-/

namespace StandardsGate

theorem Occurrence.ofName?_name (o : Occurrence) : ofName? o.name = some o := by
  cases o <;> decide

namespace Event

/-! ### Members -/

/-- The members of an event as they are found under the names of an event's members. -/
theorem lookup_members (e : Event) :
    memberNames.map (fun n => (SortedMap.ofList e.members).entries.lookup n) =
      [some (.str e.time.text), some (.str e.occurrence.name), some (.str e.actor),
        e.standard.map .str, e.checker.map .str, some e.details] := by
  have hget : ∀ n, (SortedMap.ofList e.members).entries.lookup n =
      (SortedMap.ofList e.members).get? n := fun _ => rfl
  simp only [memberNames, List.map_cons, List.map_nil, hget]
  obtain ⟨time, occurrence, actor, standard, checker, details⟩ := e
  cases standard <;> cases checker <;>
    simp [members, optionalMember, SortedMap.ofList, SortedMap.get?_insert]

/-- A text that may be missing is read as it was left out or written. -/
theorem optional_text (s : Option String) :
    Json.optional Json.text ((s.map Json.str).getD .null) = .ok s := by
  cases s <;> rfl

/-- A time that is read back is so in an event too. -/
theorem readTime_str {t : Timestamp} (h : Timestamp.parse? t.text = some t) :
    readTime (.str t.text) = .ok t := by
  simp only [readTime, Json.text, bind, Except.bind, h]
  rfl

theorem readOccurrence_str (o : Occurrence) : readOccurrence (.str o.name) = .ok o := by
  simp only [readOccurrence, Json.text, bind, Except.bind, Occurrence.ofName?_name]
  rfl

/-- **What is read of the members of an event**: the event, if its time is read back. -/
theorem ofJson_ofMembers {e : Event} (htime : Timestamp.parse? e.time.text = some e.time) :
    ofJson (.ofMembers e.members) = .ok e := by
  unfold ofJson Json.ofMembers Json.record
  dsimp only
  rw [lookup_members]
  simp only [Json.isArray, List.getElem?_cons_zero, List.getElem?_cons_succ, Option.join_some,
    readTime_str htime, readOccurrence_str, Json.text, bind, Except.bind, Bool.false_eq_true,
    if_false, optional_text]
  rfl

/-- The details of an event are a member of the object, or an item of the array, that it is read
of. -/
theorem details_of_ofJson {v : Json} {e : Event} (h : ofJson v = .ok e) :
    (∃ members, v = .obj members ∧ members.lookup "details" = some e.details) ∨
      ∃ items, v = .arr items ∧ e.details ∈ items := by
  unfold ofJson Json.record at h
  dsimp only at h
  cases v with
  | obj members =>
      refine .inl ⟨members, rfl, ?_⟩
      dsimp only at h
      -- of the parts that are read one after the other the last one are the details
      iterate 10 obtain ⟨_, -, h⟩ := exists_of_bind_eq_ok h
      obtain ⟨details, hdetails, h⟩ := exists_of_bind_eq_ok h
      cases h
      dsimp only at hdetails ⊢
      split at hdetails
      · rename_i d hd
        cases hdetails
        exact Option.some.inj hd
      · cases hdetails
  | arr items =>
      refine .inr ⟨items, rfl, ?_⟩
      dsimp only at h
      replace h := exists_of_bind_eq_ok h
      obtain ⟨read, h, hlength⟩ := h
      have hsame : read = e := by
        split at hlength <;> cases hlength
        rfl
      rw [hsame] at h
      iterate 10 obtain ⟨_, -, h⟩ := exists_of_bind_eq_ok h
      obtain ⟨details, hdetails, h⟩ := exists_of_bind_eq_ok h
      cases h
      dsimp only at hdetails ⊢
      split at hdetails
      · rename_i d hd
        cases hdetails
        exact List.mem_of_getElem? (Option.some.inj hd)
      · cases hdetails
  | _ => cases h

/-! ### Lines -/

/-- The events that can be read again: there is their time, which is one of the years 0 to 9999, and
their details have no doubles and nest so deep at most that the reader follows them where they stand,
one level down. -/
structure Legible (e : Event) : Prop where
  isTime : e.time.IsTime
  year_nonneg : 0 ≤ e.time.year
  year_le : e.time.year ≤ 9999
  isWhole : e.details.IsWhole
  readable : e.details.Readable (Json.depthLimit - 1)

/-- What is read of the line of an event, if its details can be read where they stand: its
members. -/
theorem parseChars_line {e : Event} (hwhole : e.details.IsWhole)
    (hreadable : e.details.Readable (Json.depthLimit - 1)) :
    Json.parseChars e.line.toList = .ok (.ofMembers e.members) := by
  have hmembers : ∀ m ∈ e.members, (∃ s, m.2 = .str s) ∨ m.2 = e.details := by
    have hoptional : ∀ {key : String} {s : Option String}, ∀ m ∈ optionalMember key s,
        ∃ s, m.2 = .str s := by
      intro key s m hm
      cases s with
      | none => exact absurd hm List.not_mem_nil
      | some s => exact ⟨s, by rw [List.mem_singleton.1 hm]⟩
    intro m hm
    simp only [members, List.mem_append] at hm
    rcases hm with ((hm | hm) | hm) | hm
    · refine .inl ?_
      simp only [List.mem_cons, List.not_mem_nil, or_false] at hm
      rcases hm with rfl | rfl | rfl <;> exact ⟨_, rfl⟩
    · exact .inl (hoptional m hm)
    · exact .inl (hoptional m hm)
    · exact .inr (by rw [List.mem_singleton.1 hm])
  rw [line, Json.compact, String.toList_ofList]
  refine Json.parseChars_compactChars_obj (fun m hm => ?_) fun m hm => ?_
  · rcases hmembers m hm with ⟨s, hs⟩ | hs
    · rw [hs]
      exact .str _ s
    · rwa [hs]
  · rcases hmembers m hm with ⟨s, hs⟩ | hs
    · rw [hs]
      exact .str s
    · rwa [hs]

/-- **An event is read as it was written.** -/
theorem ofLine?_line {e : Event} (h : e.Legible) : ofLine? e.line.toList = some e := by
  have htime := Timestamp.parse?_text h.isTime h.year_nonneg h.year_le
  rw [ofLine?, parseChars_line h.isWhole h.readable]
  dsimp only
  rw [ofJson_ofMembers htime]
  rfl

/-- Events that are read have details that nest less deep than their line may. -/
theorem readable_of_ofLine? {cs : List Char} {e : Event} (h : ofLine? cs = some e) :
    e.details.Readable (Json.depthLimit - 1) := by
  unfold ofLine? at h
  split at h
  · rename_i v hparse
    have hread : ofJson v = .ok e := by
      cases hv : ofJson v with
      | error mismatch => rw [hv] at h; cases h
      | ok e' => rw [hv] at h; cases h; rfl
    have hv : Json.Readable Json.depthLimit v := by
      rw [← String.toList_ofList (l := cs)] at hparse
      exact Json.readable_of_parse hparse
    rcases details_of_ofJson hread with ⟨members, rfl, hdetails⟩ | ⟨items, rfl, hdetails⟩
    · cases hv with
      | obj _ _ hmembers =>
          obtain ⟨front, back, rfl, -⟩ := List.lookup_eq_some_iff.1 hdetails
          exact hmembers _ (List.mem_append_right front List.mem_cons_self)
    · cases hv with
      | arr _ hitems => exact hitems _ hdetails
  · cases h

/-- **How deep the details of an event may nest**: as deep as the reader follows them one level
down. -/
theorem ofLine?_line_iff {e : Event} (htime : e.time.IsTime) (h0 : 0 ≤ e.time.year)
    (h1 : e.time.year ≤ 9999) (hwhole : e.details.IsWhole) :
    ofLine? e.line.toList = some e ↔ e.details.Readable (Json.depthLimit - 1) :=
  ⟨readable_of_ofLine?, fun hreadable => ofLine?_line ⟨htime, h0, h1, hwhole, hreadable⟩⟩

/-- **An event takes one line**, whatever it says. -/
theorem printable_line (e : Event) : Json.Printable e.line.toList := by
  rw [line, Json.compact, String.toList_ofList]
  exact Json.printable_compactChars _

end Event

end StandardsGate
