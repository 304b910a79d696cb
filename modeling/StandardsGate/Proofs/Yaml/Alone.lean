import StandardsGate.Proofs.Host.Action
import StandardsGate.Proofs.Yaml.Reading

/-!
Values on their own.

A node without aliases in it has the same value wherever it stands. Where tags are not allowed, it has
a value exactly if the value that it has otherwise fits: there is no tag in it, and its collections
nest no deeper than there is room.

Main definitions:

* `Yaml.Node.IsWrittenOut` — whether a node is written out, without aliases;
* `Yaml.Node.read` — the value of a node on its own;
* `Yaml.Value.fits` — whether a value has no tags and nests no deeper than there is room.

Main results:

* `Yaml.isConstant_value` — **a node that is written out has the same value everywhere**;
* `Yaml.read_false_eq_ok_iff` — **it can be read without tags exactly if its value fits**.
-/

namespace StandardsGate.Yaml

namespace Decoding

variable {α : Type} {m : Decoding α} {r : Except Fault α}

/-- What a reading comes to on its own, without a document around it. -/
def alone (m : Decoding α) : Except Fault α := (m.result ⟨none, [], 0⟩ 0).map Prod.fst

theorem IsConstant.alone_eq (h : IsConstant m r) : alone m = r := by
  rw [alone, h]
  cases r <;> rfl

theorem isConstant_alone (h : ∃ r, IsConstant m r) : IsConstant m (alone m) := by
  obtain ⟨r, hr⟩ := h
  rw [hr.alone_eq]
  exact hr

end Decoding

open Decoding

/-! ### Nodes without aliases -/

/-- Whether a node and all nodes in it are written out: none of them is an alias. -/
inductive Node.IsWrittenOut : Node → Prop
  | scalar (tag : Option String) (plain : Bool) (text : String) :
      IsWrittenOut (.scalar tag plain text)
  | seq (tag : Option String) {items : List Node} (hitems : ∀ n ∈ items, n.IsWrittenOut) :
      IsWrittenOut (.seq tag items)
  | map (tag : Option String) {entries : List (Node × Node)}
      (hkeys : ∀ e ∈ entries, e.1.IsWrittenOut) (hvalues : ∀ e ∈ entries, e.2.IsWrittenOut) :
      IsWrittenOut (.map tag entries)

/-- The value of a node on its own. -/
def Node.read (tagsAllowed : Bool) (depth : Nat) (n : Node) : Except Fault Value :=
  (value tagsAllowed depth n).alone

/-- The values of both parts of an entry. -/
def readEntry (tagsAllowed : Bool) (depth : Nat) (e : Node × Node) : Except Fault (Value × Value) := do
  return (← e.1.read tagsAllowed depth, ← e.2.read tagsAllowed depth)

variable {tagsAllowed : Bool} {depth : Nat} {tag : Option String}

theorem isConstant_scalar (tag : Option String) (plain : Bool) (text : String) :
    IsConstant (value tagsAllowed depth (.scalar tag plain text))
      ((scalar tag plain text).alone >>= fun v => (underTag tagsAllowed tag v).alone) := by
  have h : IsConstant (nodeValue tagsAllowed none (.scalar tag plain text))
      ((scalar tag plain text).alone >>= fun v => (underTag tagsAllowed tag v).alone) :=
    .bind (isConstant_alone (exists_isConstant_scalar tag plain text)) fun v =>
      isConstant_alone (exists_isConstant_underTag tagsAllowed tag v)
  cases depth <;> exact h

theorem isConstant_seq_zero (items : List Node) :
    IsConstant (value tagsAllowed 0 (.seq tag items)) (.error .tooDeep) :=
  .throw .tooDeep

theorem isConstant_map_zero (entries : List (Node × Node)) :
    IsConstant (value tagsAllowed 0 (.map tag entries)) (.error .tooDeep) :=
  .throw .tooDeep

theorem isConstant_seq {items : List Node}
    (h : ∀ n ∈ items, IsConstant (value tagsAllowed depth n) (n.read tagsAllowed depth)) :
    IsConstant (value tagsAllowed (depth + 1) (.seq tag items))
      (items.mapM (Node.read tagsAllowed depth) >>= fun vs =>
        (underTag tagsAllowed tag (.seq vs)).alone) :=
  .bind (.mapM h) fun vs => isConstant_alone (exists_isConstant_underTag tagsAllowed tag (.seq vs))

theorem isConstant_map {entries : List (Node × Node)}
    (hkeys : ∀ e ∈ entries, IsConstant (value tagsAllowed depth e.1) (e.1.read tagsAllowed depth))
    (hvalues : ∀ e ∈ entries,
      IsConstant (value tagsAllowed depth e.2) (e.2.read tagsAllowed depth)) :
    IsConstant (value tagsAllowed (depth + 1) (.map tag entries))
      (entries.mapM (readEntry tagsAllowed depth) >>= fun vs => (distinctEntries vs).alone >>=
        fun vs => (underTag tagsAllowed tag (.map vs)).alone) := by
  refine .bind (m := entries.mapM _) (.mapM fun e he => ?_) fun vs => .bind ?_ fun vs => ?_
  · exact .bind (hkeys e he) fun k => .bind (hvalues e he) fun v => .pure (k, v)
  · exact isConstant_alone (exists_isConstant_distinctEntries vs)
  · exact isConstant_alone (exists_isConstant_underTag tagsAllowed tag (.map vs))

/-- **A node that is written out has the same value everywhere.** -/
theorem isConstant_value {n : Node} (hn : n.IsWrittenOut) (tagsAllowed : Bool) (depth : Nat) :
    IsConstant (value tagsAllowed depth n) (n.read tagsAllowed depth) := by
  refine isConstant_alone ?_
  induction hn generalizing depth with
  | scalar tag plain text => exact ⟨_, isConstant_scalar tag plain text⟩
  | seq tag hitems ih =>
      cases depth with
      | zero => exact ⟨_, isConstant_seq_zero _⟩
      | succ depth => exact ⟨_, isConstant_seq fun n hn => isConstant_alone (ih n hn depth)⟩
  | map tag hkeys hvalues ihkeys ihvalues =>
      cases depth with
      | zero => exact ⟨_, isConstant_map_zero _⟩
      | succ depth =>
          exact ⟨_, isConstant_map (fun e he => isConstant_alone (ihkeys e he depth))
            fun e he => isConstant_alone (ihvalues e he depth)⟩

theorem read_seq {items : List Node} (hitems : ∀ n ∈ items, n.IsWrittenOut) (tagsAllowed : Bool)
    (depth : Nat) (tag : Option String) :
    (Node.seq tag items).read tagsAllowed (depth + 1) =
      items.mapM (Node.read tagsAllowed depth) >>= fun vs =>
        (underTag tagsAllowed tag (.seq vs)).alone :=
  (isConstant_seq fun n hn => isConstant_value (hitems n hn) tagsAllowed depth).alone_eq

theorem read_map {entries : List (Node × Node)} (hkeys : ∀ e ∈ entries, e.1.IsWrittenOut)
    (hvalues : ∀ e ∈ entries, e.2.IsWrittenOut) (tagsAllowed : Bool) (depth : Nat)
    (tag : Option String) :
    (Node.map tag entries).read tagsAllowed (depth + 1) =
      entries.mapM (readEntry tagsAllowed depth) >>= fun vs => (distinctEntries vs).alone >>=
        fun vs => (underTag tagsAllowed tag (.map vs)).alone :=
  (isConstant_map (fun e he => isConstant_value (hkeys e he) tagsAllowed depth)
    fun e he => isConstant_value (hvalues e he) tagsAllowed depth).alone_eq

/-! ### Values that fit -/

/-- Whether a value has no tags, and collections that nest at most so deep. -/
def Value.fits : Nat → Value → Bool
  | _, .tagged .. => false
  | 0, .seq _ | 0, .map _ => false
  | room + 1, .seq items => items.all (Value.fits room)
  | room + 1, .map entries => entries.all fun e => e.1.fits room && e.2.fits room
  | _, _ => true

theorem fits_floatOrText (text : String) (room : Nat) : (floatOrText text).fits room = true := by
  unfold floatOrText
  dsimp only
  split
  · cases room <;> rfl
  · split <;> cases room <;> rfl

theorem fits_of_scalarValue {text : String} {v : Value} (h : scalarValue text = some v) (room : Nat) :
    v.fits room = true := by
  unfold scalarValue at h
  split at h
  · cases h
    cases room <;> rfl
  · split at h
    · cases h
      cases room <;> rfl
    · split at h
      · split at h <;> cases h
        · cases room <;> rfl
        · exact fits_floatOrText text room
      · cases h
        exact fits_floatOrText text room

theorem fits_of_taggedScalar {tag text : String} {v : Value} (h : taggedScalar tag text = some v)
    (room : Nat) : v.fits room = true := by
  unfold taggedScalar at h
  split at h
  · obtain ⟨b, -, rfl⟩ := Option.map_eq_some_iff.1 h
    cases room <;> rfl
  · split at h
    · split at h
      · split at h <;> cases h
        cases room <;> rfl
      · cases h
    · split at h
      · obtain ⟨x, -, rfl⟩ := Option.map_eq_some_iff.1 h
        cases room <;> rfl
      · split at h
        · split at h <;> cases h
          cases room <;> rfl
        · cases h
          cases room <;> rfl

/-- A scalar fits everywhere. -/
theorem fits_of_scalar {plain : Bool} {text : String} {v : Value}
    (h : (scalar tag plain text).alone = .ok v) (room : Nat) : v.fits room = true := by
  have hstr : (Value.str text).fits room = true := by cases room <;> rfl
  unfold scalar at h
  dsimp only at h
  split at h
  · rename_i v' hv
    cases h
    split at hv
    · split at hv
      · split at hv
        · exact fits_of_scalarValue hv room
        · exact Option.some.inj hv ▸ hstr
      · exact fits_of_taggedScalar hv room
    · split at hv
      · exact fits_of_scalarValue hv room
      · exact Option.some.inj hv ▸ hstr
  · cases h

/-- If one result is possible only, under a condition, what comes after goes on from it. -/
theorem bind_eq_ok_iff_of_unique {α β : Type} {m : Except Fault α} {a : α} {condition : Prop}
    (hm : ∀ b, m = .ok b ↔ b = a ∧ condition) (f : α → Except Fault β) (c : β) :
    m >>= f = .ok c ↔ f a = .ok c ∧ condition := by
  constructor
  · intro h
    obtain ⟨b, hb, hc⟩ := exists_of_bind_eq_ok h
    obtain ⟨rfl, hcondition⟩ := (hm b).1 hb
    exact ⟨hc, hcondition⟩
  · rintro ⟨hc, hcondition⟩
    rw [(hm a).2 ⟨rfl, hcondition⟩]
    exact hc

/-- If only some values are possible, what is read of a list is what is read of it otherwise, as long
as all of that is possible. -/
theorem mapM_eq_ok_iff {α β : Type} {f g : α → Except Fault β} {possible : β → Bool} {as : List α}
    {bs : List β}
    (h : ∀ a ∈ as, ∀ b, f a = .ok b → ∀ c, g a = .ok c ↔ c = b ∧ possible b = true)
    (hf : as.mapM f = .ok bs) (cs : List β) :
    as.mapM g = .ok cs ↔ cs = bs ∧ bs.all possible = true := by
  induction as generalizing bs cs with
  | nil =>
      cases hf
      constructor
      · rintro ⟨⟩
        exact ⟨rfl, rfl⟩
      · rintro ⟨rfl, -⟩
        rfl
  | cons a as ih =>
      obtain ⟨ha, has⟩ := List.forall_mem_cons.1 h
      rw [List.mapM_cons] at hf ⊢
      obtain ⟨b, hb, hf⟩ := exists_of_bind_eq_ok hf
      obtain ⟨bs, hbs, hf⟩ := exists_of_bind_eq_ok hf
      cases hf
      rw [List.all_cons, Bool.and_eq_true, bind_eq_ok_iff_of_unique (ha b hb),
        bind_eq_ok_iff_of_unique (ih has hbs)]
      constructor
      · rintro ⟨⟨⟨⟩, hall⟩, hpossible⟩
        exact ⟨rfl, hpossible, hall⟩
      · rintro ⟨rfl, hpossible, hall⟩
        exact ⟨⟨rfl, hall⟩, hpossible⟩

/-- Where tags are not allowed, a value stays the same if it has none. -/
theorem underTag_false_eq_ok_iff {v w : Value} (h : (underTag true tag v).alone = .ok w) (room : Nat)
    (u : Value) :
    (underTag false tag v).alone = .ok u ∧ v.fits room = true ↔ u = w ∧ w.fits room = true := by
  unfold underTag at h ⊢
  cases hlocal : localTag? tag with
  | none =>
      rw [hlocal] at h
      cases h
      constructor
      · rintro ⟨⟨⟩, hfits⟩
        exact ⟨rfl, hfits⟩
      · rintro ⟨rfl, hfits⟩
        exact ⟨rfl, hfits⟩
  | some name =>
      rw [hlocal] at h
      cases h
      constructor
      · rintro ⟨⟨⟩, -⟩
      · rintro ⟨-, hfits⟩
        cases room <;> cases hfits

theorem eq_of_distinctEntries {vs ws : List (Value × Value)}
    (h : (distinctEntries vs).alone = .ok ws) : vs = ws := by
  unfold distinctEntries at h
  split at h <;> cases h
  rfl

/-- Where tags are not allowed, an entry stays the same if both of its parts do. -/
theorem readEntry_false_eq_ok_iff {e : Node × Node} {room : Nat} {w : Value × Value}
    (hkey : ∀ k, e.1.read true depth = .ok k →
      ∀ u, e.1.read false room = .ok u ↔ u = k ∧ k.fits room = true)
    (hvalue : ∀ v, e.2.read true depth = .ok v →
      ∀ u, e.2.read false room = .ok u ↔ u = v ∧ v.fits room = true)
    (h : readEntry true depth e = .ok w) (u : Value × Value) :
    readEntry false room e = .ok u ↔ u = w ∧ (w.1.fits room && w.2.fits room) = true := by
  obtain ⟨k, hk, h⟩ := exists_of_bind_eq_ok h
  obtain ⟨v, hv, ⟨⟩⟩ := exists_of_bind_eq_ok h
  rw [Bool.and_eq_true, readEntry, bind_eq_ok_iff_of_unique (hkey k hk),
    bind_eq_ok_iff_of_unique (hvalue v hv)]
  constructor
  · rintro ⟨⟨⟨⟩, hfitsValue⟩, hfitsKey⟩
    exact ⟨rfl, hfitsKey, hfitsValue⟩
  · rintro ⟨rfl, hfitsKey, hfitsValue⟩
    exact ⟨⟨rfl, hfitsValue⟩, hfitsKey⟩

/-- **A node that is written out can be read without tags exactly if its value fits.** -/
theorem read_false_eq_ok_iff {n : Node} (hn : n.IsWrittenOut) {v : Value}
    (h : n.read true depth = .ok v) (room : Nat) (u : Value) :
    n.read false room = .ok u ↔ u = v ∧ v.fits room = true := by
  induction hn generalizing depth room v u with
  | scalar tag plain text =>
      unfold Node.read at h ⊢
      rw [(isConstant_scalar tag plain text).alone_eq] at h ⊢
      obtain ⟨w, hw, hv⟩ := exists_of_bind_eq_ok h
      rw [hw, ← underTag_false_eq_ok_iff hv room u]
      exact (and_iff_left (fits_of_scalar hw room)).symm
  | @seq tag items hitems ih =>
      cases depth with
      | zero => cases h
      | succ depth =>
          obtain ⟨vs, hvs, hv⟩ := exists_of_bind_eq_ok ((read_seq hitems true depth tag).symm.trans h)
          rw [← underTag_false_eq_ok_iff hv room u]
          cases room with
          | zero => exact ⟨nofun, fun hu => nomatch hu.2⟩
          | succ room =>
              have hall := mapM_eq_ok_iff (fun n hn w hw => ih n hn hw room) hvs
              rw [read_seq hitems, bind_eq_ok_iff_of_unique hall]
              exact Iff.rfl
  | @map tag entries hkeys hvalues ihkeys ihvalues =>
      cases depth with
      | zero => cases h
      | succ depth =>
          obtain ⟨vs, hvs, hv⟩ :=
            exists_of_bind_eq_ok ((read_map hkeys hvalues true depth tag).symm.trans h)
          obtain ⟨ws, hdistinct, hv⟩ := exists_of_bind_eq_ok hv
          obtain rfl := eq_of_distinctEntries hdistinct
          rw [← underTag_false_eq_ok_iff hv room u]
          cases room with
          | zero => exact ⟨nofun, fun hu => nomatch hu.2⟩
          | succ room =>
              have hall := mapM_eq_ok_iff
                (fun e he w hw => readEntry_false_eq_ok_iff (fun k hk => ihkeys e he hk room)
                  (fun v hv => ihvalues e he hv room) hw) hvs
              rw [read_map hkeys hvalues, bind_eq_ok_iff_of_unique hall, hdistinct]
              exact Iff.rfl

end StandardsGate.Yaml
