import StandardsGate.Yaml.Decode
import Mathlib.Data.List.Forall2

/-!
Reading two documents side by side.

A reading takes a document and counts the aliases that it follows. Two readings of two documents are
compared: whenever the one succeeds, the other one succeeds too, with a related value and no more
aliases followed, or it fails with the one fault that is expected. The rules for this comparison
follow the way readings are put together, so that a comparison of two programs is one of their parts.
A program is compared with itself where the second document has the anchors of the first one and as
many events at least.

Main definitions:

* `Yaml.Decoding.result`, `Yaml.Decoding.IsConstant` — what a reading comes to, and whether that
  depends on the document;
* `Yaml.Parallel` — whether a reading has a certain outcome where another one succeeds;
* `Yaml.Document.Within`, `Yaml.Document.meant`, `Yaml.Document.Spells` — documents with anchors in
  common, the node that is meant where an alias stands, and its text.

Main results:

* `Yaml.Parallel.bind`, `Yaml.Parallel.bind_ok`, `Yaml.Parallel.insert` — one reading after the other,
  and one that the other program lacks;
* `Yaml.Parallel.mapM_insert`, `Yaml.Parallel.mapM_replace` — lists with one element more, or with
  another one in its place;
* `Yaml.Parallel.value` — **a node has the same value in both documents**;
* `Yaml.Parallel.exists_decode_eq_ok` — a document that is compared with one that can be read can be
  read too.
-/

namespace StandardsGate.Yaml

variable {α β γ δ : Type} {d d' : Document}

namespace Decoding

/-- What a reading comes to for a document of which so many aliases have been followed. -/
def result (m : Decoding α) (d : Document) (count : Nat) : Except Fault (α × Nat) :=
  (m.run d).run count

/-- **One reading after the other.** -/
theorem result_bind (m : Decoding α) (f : α → Decoding β) (d : Document) (count : Nat) :
    result (m >>= f) d count =
      match result m d count with
      | .ok (a, left) => result (f a) d left
      | .error fault => .error fault := by
  unfold result
  rw [ReaderT.run_bind, StateT.run_bind]
  rcases (m.run d).run count with fault | ⟨a, left⟩ <;> rfl

theorem result_bind_of_ok {m : Decoding α} {count left : Nat} {a : α}
    (h : result m d count = .ok (a, left)) (f : α → Decoding β) :
    result (m >>= f) d count = result (f a) d left := by
  rw [result_bind, h]

theorem result_bind_of_error {m : Decoding α} {count : Nat} {fault : Fault}
    (h : result m d count = .error fault) (f : α → Decoding β) :
    result (m >>= f) d count = .error fault := by
  rw [result_bind, h]

/-- If two readings succeed one after the other, each of them does. -/
theorem result_bind_eq_ok {m : Decoding α} {f : α → Decoding β} {count left : Nat} {b : β}
    (h : result (m >>= f) d count = .ok (b, left)) :
    ∃ a between, result m d count = .ok (a, between) ∧ result (f a) d between = .ok (b, left) := by
  rw [result_bind] at h
  split at h
  · rename_i a between hm
    exact ⟨a, between, hm, h⟩
  · cases h

/-! ### Readings that do not depend on the document -/

/-- Whether a reading comes to the same for all documents, and follows no alias. -/
def IsConstant (m : Decoding α) (r : Except Fault α) : Prop :=
  ∀ d count, result m d count = r.map (·, count)

namespace IsConstant

variable {m : Decoding α} {r : Except Fault α}

protected theorem pure (a : α) : IsConstant (pure a) (.ok a) := fun _ _ => rfl

protected theorem throw (fault : Fault) : IsConstant (throw fault : Decoding α) (.error fault) :=
  fun _ _ => rfl

protected theorem bind {f : α → Decoding β} {g : α → Except Fault β} (hm : IsConstant m r)
    (hf : ∀ a, IsConstant (f a) (g a)) : IsConstant (m >>= f) (r >>= g) := by
  intro d count
  rw [result_bind, hm d count]
  cases r with
  | error fault => rfl
  | ok a => exact hf a d count

protected theorem mapM {f : α → Decoding β} {g : α → Except Fault β} {as : List α}
    (h : ∀ a ∈ as, IsConstant (f a) (g a)) : IsConstant (as.mapM f) (as.mapM g) := by
  induction as with
  | nil => exact .pure []
  | cons a as ih =>
      obtain ⟨ha, has⟩ := List.forall_mem_cons.1 h
      rw [List.mapM_cons, List.mapM_cons]
      exact .bind ha fun b => .bind (ih has) fun bs => .pure (b :: bs)

end IsConstant

end Decoding

/-! ### Two readings side by side -/

/-- Whether a document has the anchors of another one, and as many events at least. -/
structure Document.Within (d d' : Document) : Prop where
  anchors : ∀ id n, d.anchored? id = some n → d'.anchored? id = some n
  events : d.events ≤ d'.events

/-- Whether a result is what was expected: a value that is right, with so many aliases followed at
most, or a certain fault. -/
def Expected (outcome : Except Fault Unit) (right : β → Prop) (most : Nat)
    (result : Except Fault (β × Nat)) : Prop :=
  match outcome with
  | .ok () => ∃ b left, result = .ok (b, left) ∧ right b ∧ left ≤ most
  | .error fault => result = .error fault

/-- Whether a reading of one document, where another reading of another one succeeds, has a certain
outcome: it succeeds with a related value, or it fails with a certain fault. It follows no more
aliases than the other one. -/
def Parallel (d d' : Document) (outcome : Except Fault Unit) (R : α → β → Prop) (m : Decoding α)
    (m' : Decoding β) : Prop :=
  ∀ count a left, m.result d count = .ok (a, left) → ∀ count' ≤ count,
    Expected outcome (R a) left (m'.result d' count')

namespace Parallel

open Decoding

variable {outcome : Except Fault Unit} {R : α → β → Prop} {S : γ → δ → Prop} {m : Decoding α}
  {m' : Decoding β} {f : α → Decoding γ} {f' : β → Decoding δ}

protected theorem pure {a : α} {b : β} (h : R a b) :
    Parallel d d' (.ok ()) R (pure a) (pure b) := by
  rintro count _ _ ⟨⟩ count' hcount
  exact ⟨b, count', rfl, h, hcount⟩

protected theorem throw (fault : Fault) : Parallel d d' outcome R (throw fault) m' := nofun

theorem imp {R' : α → β → Prop} (h : Parallel d d' outcome R m m') (himp : ∀ a b, R a b → R' a b) :
    Parallel d d' outcome R' m m' := by
  intro count a left hm count' hcount
  have hexpected := h count a left hm count' hcount
  cases outcome with
  | error fault => exact hexpected
  | ok =>
      obtain ⟨b, left', hm', hb, hleft⟩ := hexpected
      exact ⟨b, left', hm', himp a b hb, hleft⟩

/-- What comes after readings that both succeed decides. -/
protected theorem bind (hm : Parallel d d' (.ok ()) R m m')
    (hf : ∀ a b, R a b → Parallel d d' outcome S (f a) (f' b)) :
    Parallel d d' outcome S (m >>= f) (m' >>= f') := by
  intro count c left h count' hcount
  obtain ⟨a, between, ha, hc⟩ := result_bind_eq_ok h
  obtain ⟨b, between', hb, hab, hbetween⟩ := hm count a between ha count' hcount
  rw [result_bind_of_ok hb]
  exact hf a b hab between c left hc between' hbetween

/-- What comes after a reading that has some outcome does not change that outcome. -/
theorem bind_ok (hm : Parallel d d' outcome R m m')
    (hf : ∀ a b, R a b → Parallel d d' (.ok ()) S (f a) (f' b)) :
    Parallel d d' outcome S (m >>= f) (m' >>= f') := by
  cases outcome with
  | ok => exact hm.bind hf
  | error fault =>
      intro count c left h count' hcount
      obtain ⟨a, between, ha, -⟩ := result_bind_eq_ok h
      exact result_bind_of_error (hm count a between ha count' hcount) f'

/-- A reading that the other one lacks has its own outcome. -/
theorem insert {x : Decoding γ} {r : Except Fault γ} (hx : IsConstant x r) {f' : γ → Decoding β}
    (hf : ∀ c, r = .ok c → Parallel d d' (.ok ()) R m (f' c)) :
    Parallel d d' (r.map fun _ => ()) R m (x >>= f') := by
  intro count a left hm count' hcount
  have hresult := hx d' count'
  cases r with
  | error fault => exact result_bind_of_error hresult f'
  | ok c =>
      rw [result_bind_of_ok hresult]
      exact hf c rfl count a left hm count' hcount

theorem of_isConstant {r : Except Fault α} (h : IsConstant m r) :
    Parallel d d' (.ok ()) Eq m m := by
  intro count a left hm count' hcount
  rw [h d count] at hm
  rw [h d' count']
  cases r with
  | error fault => cases hm
  | ok b =>
      cases hm
      exact ⟨_, count', rfl, rfl, hcount⟩

/-- One reading for each element of a list. -/
protected theorem mapM {f : γ → Decoding α} {f' : δ → Decoding β} {cs : List γ} {ds : List δ}
    (h : List.Forall₂ (fun c c' => Parallel d d' (.ok ()) R (f c) (f' c')) cs ds) :
    Parallel d d' (.ok ()) (List.Forall₂ R) (cs.mapM f) (ds.mapM f') := by
  induction h with
  | nil => exact .pure .nil
  | cons hc _ ih =>
      rw [List.mapM_cons, List.mapM_cons]
      exact .bind hc fun a b hab => .bind ih fun as bs habs => .pure (.cons hab habs)

theorem mapM_self {f : γ → Decoding α} {cs : List γ}
    (h : ∀ c ∈ cs, Parallel d d' (.ok ()) Eq (f c) (f c)) :
    Parallel d d' (.ok ()) Eq (cs.mapM f) (cs.mapM f) :=
  (Parallel.mapM (List.forall₂_same.2 h)).imp fun _ _ => List.forall₂_eq_eq_eq ▸ id

/-- The other list has one element more, for which the reading has its own outcome. What is read has
one element more there too. -/
theorem mapM_insert {f : γ → Decoding α} {r : Except Fault α} {front back : List γ} {x : γ}
    (hx : IsConstant (f x) r)
    (h : ∀ c ∈ front ++ back, Parallel d d' (.ok ()) Eq (f c) (f c)) :
    Parallel d d' (r.map fun _ => ())
      (fun as bs => ∃ before after a, r = .ok a ∧ as = before ++ after ∧ bs = before ++ a :: after)
      ((front ++ back).mapM f) ((front ++ x :: back).mapM f) := by
  rw [List.mapM_append, List.mapM_append]
  refine .bind (mapM_self fun c hc => h c (List.mem_append_left _ hc)) ?_
  rintro before _ rfl
  rw [List.mapM_cons]
  simp only [bind_assoc]
  refine .insert hx fun a ha => ?_
  refine .bind (mapM_self fun c hc => h c (List.mem_append_right _ hc)) ?_
  rintro after _ rfl
  exact .pure ⟨before, after, a, ha, rfl, rfl⟩

/-- One element of a list is read with some outcome, the others succeed. -/
theorem mapM_replace {f : γ → Decoding α} {R : α → α → Prop} {front back : List γ} {x x' : γ}
    (hx : Parallel d d' outcome R (f x) (f x'))
    (h : ∀ c ∈ front ++ back, Parallel d d' (.ok ()) Eq (f c) (f c)) :
    Parallel d d' outcome
      (fun as bs => ∃ before after a b, R a b ∧ as = before ++ a :: after ∧
        bs = before ++ b :: after)
      ((front ++ x :: back).mapM f) ((front ++ x' :: back).mapM f) := by
  rw [List.mapM_append, List.mapM_append]
  refine .bind (mapM_self fun c hc => h c (List.mem_append_left _ hc)) ?_
  rintro before _ rfl
  rw [List.mapM_cons, List.mapM_cons]
  simp only [bind_assoc]
  refine .bind_ok hx fun a b hab => ?_
  refine .bind (mapM_self fun c hc => h c (List.mem_append_right _ hc)) ?_
  rintro after _ rfl
  exact .pure ⟨before, after, a, b, hab, rfl, rfl⟩

end Parallel

/-! ### Nodes -/

/-- The node that is meant where a node stands: the one of its anchor if it is an alias. -/
def Document.meant (d : Document) : Node → Node
  | .alias id => (d.anchored? id).getD (.alias id)
  | n => n

/-- Whether a node refers to another one. -/
def Node.isAlias : Node → Bool
  | .alias _ => true
  | _ => false

theorem isConstant_follow {n : Node} (h : n.isAlias = false) :
    Decoding.IsConstant (follow n) (.ok n) := by
  rcases n with id | _ | _ | _
  · cases h
  all_goals exact .pure _

/-- What comes of an alias: one more is followed. -/
theorem result_follow_alias (id : Nat) (d : Document) (count : Nat) :
    (follow (.alias id)).result d count =
      if d.events * aliasFactor < count + 1 then .error .tooManyAliases
      else match d.anchored? id with
        | some n => .ok (n, count + 1)
        | none => .error .unknownAnchor := by
  have hread : Decoding.result read d count = .ok (d, count) := rfl
  have hget : Decoding.result get d count = .ok (count, count) := rfl
  have hset : Decoding.result (set (count + 1)) d count = .ok (⟨⟩, count + 1) := rfl
  unfold follow
  rw [Decoding.result_bind_of_ok hread, Decoding.result_bind_of_ok hget]
  dsimp only
  rw [Decoding.result_bind_of_ok hset]
  split
  · rfl
  · cases d.anchored? id <;> rfl

theorem eq_meant_of_follow {n a : Node} {count left : Nat}
    (h : (follow n).result d count = .ok (a, left)) : a = d.meant n ∧ count ≤ left := by
  rcases n with id | _ | _ | _
  · rw [result_follow_alias] at h
    split at h
    · cases h
    · split at h
      · rename_i n hn
        cases h
        exact ⟨by rw [Document.meant, hn, Option.getD_some], Nat.le_succ count⟩
      · cases h
  all_goals cases h; exact ⟨rfl, Nat.le_refl _⟩

/-- The same node is found in both documents. -/
theorem Parallel.follow (hwithin : d.Within d') (n : Node) :
    Parallel d d' (.ok ()) (fun a b => a = d.meant n ∧ a = b) (Yaml.follow n) (Yaml.follow n) := by
  intro count a left h count' hcount
  have hmeant := (eq_meant_of_follow h).1
  rcases n with id | _ | _ | _
  · rw [result_follow_alias] at h ⊢
    split at h
    · cases h
    · rename_i hfew
      split at h
      · rename_i n hn
        cases h
        have hevents := Nat.mul_le_mul_right aliasFactor hwithin.events
        rw [if_neg (by omega), hwithin.anchors id _ hn]
        exact ⟨_, count' + 1, rfl, ⟨hmeant, rfl⟩, Nat.succ_le_succ hcount⟩
      · cases h
  all_goals cases h; exact ⟨_, count', rfl, ⟨hmeant, rfl⟩, hcount⟩

/-- A node may stand in the place of what is meant by another one. -/
theorem Parallel.follow_inPlace {n n' : Node} (h : n'.isAlias = false) :
    Parallel d d' (.ok ()) (fun a b => a = d.meant n ∧ b = n') (Yaml.follow n) (Yaml.follow n') := by
  intro count a left hn count' hcount
  obtain ⟨hmeant, hleft⟩ := eq_meant_of_follow hn
  exact ⟨n', count', isConstant_follow h d' count', ⟨hmeant, rfl⟩, Nat.le_trans hcount hleft⟩

/-! ### Values -/

section Values

open Decoding

theorem exists_isConstant_scalar (tag : Option String) (plain : Bool) (text : String) :
    ∃ r, IsConstant (scalar tag plain text) r := by
  unfold scalar
  dsimp only
  split
  · exact ⟨_, .pure _⟩
  · exact ⟨_, .throw _⟩

theorem exists_isConstant_underTag (tagsAllowed : Bool) (tag : Option String) (v : Value) :
    ∃ r, IsConstant (underTag tagsAllowed tag v) r := by
  unfold underTag
  split
  · exact ⟨_, .pure v⟩
  · split
    · exact ⟨_, .pure _⟩
    · exact ⟨_, .throw _⟩

theorem exists_isConstant_distinctEntries (entries : List (Value × Value)) :
    ∃ r, IsConstant (distinctEntries entries) r := by
  unfold distinctEntries
  split
  · exact ⟨_, .throw _⟩
  · exact ⟨_, .pure entries⟩

theorem Parallel.of_exists {m : Decoding α} (h : ∃ r, IsConstant m r) :
    Parallel d d' (.ok ()) Eq m m := by
  obtain ⟨r, hr⟩ := h
  exact .of_isConstant hr

/-- A node has the same value in both documents, if the nodes in it have. -/
theorem Parallel.nodeValue (tagsAllowed : Bool) {inner : Option (Node → Decoding Value)}
    (hinner : ∀ read ∈ inner, ∀ n, Parallel d d' (.ok ()) Eq (read n) (read n)) (n : Node) :
    Parallel d d' (.ok ()) Eq (Yaml.nodeValue tagsAllowed inner n)
      (Yaml.nodeValue tagsAllowed inner n) := by
  have htag : ∀ tag v, Parallel d d' (.ok ()) Eq (underTag tagsAllowed tag v)
      (underTag tagsAllowed tag v) :=
    fun tag v => .of_exists (exists_isConstant_underTag tagsAllowed tag v)
  have hentry : ∀ read ∈ inner, ∀ e : Node × Node,
      Parallel d d' (.ok ()) Eq (do return (← read e.1, ← read e.2))
        (do return (← read e.1, ← read e.2)) := by
    intro read hread e
    refine .bind (hinner read hread e.1) ?_
    rintro k _ rfl
    refine .bind (hinner read hread e.2) ?_
    rintro v _ rfl
    exact .pure rfl
  rcases n with id | ⟨tag, plain, text⟩ | ⟨tag, items⟩ | ⟨tag, entries⟩
  · exact .throw _
  · refine .bind (.of_exists (exists_isConstant_scalar tag plain text)) ?_
    rintro v _ rfl
    exact htag tag v
  · cases inner with
    | none => exact .throw _
    | some read =>
        refine .bind (.mapM_self fun n _ => hinner read rfl n) ?_
        rintro vs _ rfl
        exact htag tag (.seq vs)
  · cases inner with
    | none => exact .throw _
    | some read =>
        refine .bind (.mapM_self fun e _ => hentry read rfl e) ?_
        rintro vs _ rfl
        refine .bind (.of_exists (exists_isConstant_distinctEntries vs)) ?_
        rintro vs _ rfl
        exact htag tag (.map vs)

/-- **A node has the same value in both documents.** -/
theorem Parallel.value (hwithin : d.Within d') (tagsAllowed : Bool) (depth : Nat) (n : Node) :
    Parallel d d' (.ok ()) Eq (Yaml.value tagsAllowed depth n)
      (Yaml.value tagsAllowed depth n) := by
  induction depth generalizing n with
  | zero =>
      rw [value.eq_1]
      refine .bind (.follow hwithin n) ?_
      rintro a _ ⟨-, rfl⟩
      exact .nodeValue tagsAllowed (by simp) a
  | succ depth ih =>
      rw [value.eq_2]
      refine .bind (.follow hwithin n) ?_
      rintro a _ ⟨-, rfl⟩
      refine .nodeValue tagsAllowed ?_ a
      rintro _ ⟨⟩
      exact ih

end Values

/-! ### Typed views -/

section Views

/-- What is done with a node once it is found does not depend on the document. -/
theorem Parallel.follow_bind (hwithin : d.Within d') (n : Node) {f : Node → Decoding α}
    (hf : ∀ a, ∃ r, (f a).IsConstant r) :
    Parallel d d' (.ok ()) Eq (Yaml.follow n >>= f) (Yaml.follow n >>= f) := by
  refine .bind (.follow hwithin n) ?_
  rintro a _ ⟨-, rfl⟩
  exact .of_exists (hf a)

theorem Parallel.mapping (hwithin : d.Within d') (depth : Nat) (n : Node) :
    Parallel d d' (.ok ()) Eq (Yaml.mapping depth n) (Yaml.mapping depth n) := by
  refine .follow_bind hwithin n fun a => ?_
  split
  · exact ⟨_, .pure _⟩
  · exact ⟨_, .throw _⟩
  · split
    · exact ⟨_, .pure _⟩
    · exact ⟨_, .throw _⟩

theorem Parallel.sequence (hwithin : d.Within d') (depth : Nat) (n : Node) :
    Parallel d d' (.ok ()) Eq (Yaml.sequence depth n) (Yaml.sequence depth n) := by
  refine .follow_bind hwithin n fun a => ?_
  split
  · exact ⟨_, .pure _⟩
  · exact ⟨_, .throw _⟩
  · split
    · exact ⟨_, .pure _⟩
    · exact ⟨_, .throw _⟩

/-- Whether a node spells a text. -/
def Document.Spells (d : Document) (n : Node) (text : String) : Prop :=
  ∃ tag plain, d.meant n = .scalar tag plain text

theorem Document.Spells.unique {n : Node} {text text' : String} (h : d.Spells n text)
    (h' : d.Spells n text') : text = text' := by
  obtain ⟨tag, plain, h⟩ := h
  obtain ⟨tag', plain', h'⟩ := h'
  cases h.symm.trans h'
  rfl

/-- A scalar has the same text in both documents, which is the one that it spells. -/
theorem Parallel.text_spells (hwithin : d.Within d') (n : Node) :
    Parallel d d' (.ok ()) (fun a b => d.Spells n a ∧ a = b) (Yaml.text n) (Yaml.text n) := by
  refine .bind (.follow hwithin n) ?_
  rintro a _ ⟨hmeant, rfl⟩
  split
  · exact .pure ⟨⟨_, _, hmeant.symm⟩, rfl⟩
  · exact .throw _

theorem Parallel.text (hwithin : d.Within d') (n : Node) :
    Parallel d d' (.ok ()) Eq (Yaml.text n) (Yaml.text n) :=
  (Parallel.text_spells hwithin n).imp fun _ _ h => h.2

theorem Parallel.texts (hwithin : d.Within d') (depth : Nat) (n : Node) :
    Parallel d d' (.ok ()) Eq (Yaml.texts depth n) (Yaml.texts depth n) := by
  refine .bind (.sequence hwithin depth n) ?_
  rintro items _ rfl
  exact .mapM_self fun item _ => .text hwithin item

theorem Parallel.optional (hwithin : d.Within d') (n : Node) :
    Parallel d d' (.ok ()) Eq (Yaml.optional n) (Yaml.optional n) := by
  refine .follow_bind hwithin n fun a => ?_
  repeat' split
  all_goals first | exact ⟨_, .pure _⟩ | exact ⟨_, .throw _⟩

/-- A mapping may stand in the place of another one. -/
theorem Parallel.mapping_map {n : Node} {tag tag' : Option String}
    {entries entries' : List (Node × Node)} (h : d.meant n = .map tag entries) (depth : Nat) :
    Parallel d d' (.ok ()) (fun a b => a = (entries, depth) ∧ b = (entries', depth))
      (Yaml.mapping (depth + 1) n) (Yaml.mapping (depth + 1) (.map tag' entries')) := by
  refine .bind (.follow_inPlace rfl) ?_
  rintro _ _ ⟨rfl, rfl⟩
  rw [h]
  exact .pure ⟨rfl, rfl⟩

/-- A mapping may stand in the place of a node that was left out. -/
theorem Parallel.mapping_absent {n : Node} {tag : Option String} {entries : List (Node × Node)}
    (h : isAbsent (d.meant n) = true) (depth : Nat) :
    Parallel d d' (.ok ()) (fun a b => a = ([], depth + 1) ∧ b = (entries, depth))
      (Yaml.mapping (depth + 1) n) (Yaml.mapping (depth + 1) (.map tag entries)) := by
  refine .bind (.follow_inPlace rfl) ?_
  rintro a _ ⟨rfl, rfl⟩
  generalize d.meant n = a at h
  rcases a with _ | ⟨tag, plain, text⟩ | _ | _
  · cases h
  · dsimp only
    rw [if_pos h]
    exact .pure ⟨rfl, rfl⟩
  · cases h
  · cases h

/-- A mapping may stand in the place of another one where null is possible. -/
theorem Parallel.optional_map {n : Node} {tag tag' : Option String}
    {entries entries' : List (Node × Node)} (h : d.meant n = .map tag entries) :
    Parallel d d' (.ok ()) (fun a b => a = some (.map tag entries) ∧ b = some (.map tag' entries'))
      (Yaml.optional n) (Yaml.optional (.map tag' entries')) := by
  refine .bind (.follow_inPlace rfl) ?_
  rintro _ _ ⟨rfl, rfl⟩
  rw [h]
  exact .pure ⟨rfl, rfl⟩

end Views

/-! ### Documents -/

section Documents

variable {R : α → β → Prop} {read : Node → Decoding α} {read' : Node → Decoding β} {a : α}

theorem decode_eq_result (d : Document) (read : Node → Decoding α) :
    decode d read = ((read (d.root.getD (.scalar none true ""))).result d 0).map Prod.fst := by
  unfold decode Decoding.result
  cases ((read (d.root.getD (.scalar none true ""))).run d).run 0 <;> rfl

theorem exists_result_of_decode (h : decode d read = .ok a) :
    ∃ left, (read (d.root.getD (.scalar none true ""))).result d 0 = .ok (a, left) := by
  rw [decode_eq_result] at h
  cases hresult : (read (d.root.getD (.scalar none true ""))).result d 0 with
  | error fault =>
      rw [hresult] at h
      cases h
  | ok r =>
      rw [hresult] at h
      cases h
      exact ⟨r.2, rfl⟩

theorem Parallel.exists_decode_eq_ok
    (hparallel : Parallel d d' (.ok ()) R (read (d.root.getD (.scalar none true "")))
      (read' (d'.root.getD (.scalar none true "")))) (h : decode d read = .ok a) :
    ∃ b, decode d' read' = .ok b ∧ R a b := by
  obtain ⟨left, hleft⟩ := exists_result_of_decode h
  obtain ⟨b, left', hresult, hab, -⟩ := hparallel 0 a left hleft 0 (Nat.le_refl 0)
  refine ⟨b, ?_, hab⟩
  rw [decode_eq_result, hresult]
  rfl

theorem Parallel.decode_eq_error {fault : Fault}
    (hparallel : Parallel d d' (.error fault) R (read (d.root.getD (.scalar none true "")))
      (read' (d'.root.getD (.scalar none true "")))) (h : decode d read = .ok a) :
    decode d' read' = .error fault := by
  obtain ⟨left, hleft⟩ := exists_result_of_decode h
  have hresult := hparallel 0 a left hleft 0 (Nat.le_refl 0)
  rw [decode_eq_result]
  exact congrArg (Except.map Prod.fst) hresult

end Documents

end StandardsGate.Yaml
