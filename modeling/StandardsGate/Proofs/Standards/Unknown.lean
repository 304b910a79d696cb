import StandardsGate.Proofs.Standards.Agreement
import StandardsGate.Proofs.Standards.Parts

/-!
Keys that are not known.

What stands in a standard or in a declaration under a key that is not known is read and kept, but does
nothing. So a document may get such keys anywhere, and declares the same standards and checkers as
before, if what stands under the key can be read. Tags cannot be read there, although they can be in
the options of a checker, and neither can what nests too deep.

Main definitions:

* `Yaml.Gains`, `Yaml.Changes` — a mapping with one entry more, or with another value of a key;
* `Site`, `Site.Gains` — the places where keys can be added, and a document's root with one there;
* `Config.ofDocument` — the configuration of a document, validated.

Main results:

* `Config.ofYaml_eq_ofDocument` — the configuration of a text is that of its document;
* `Config.parallel_declaration_gains`, `Config.parallel_standard_gains` — what becomes of an entry
  that is not known;
* `Config.ofDocument_rewritten` — **a key that is not known changes nothing, exactly if what stands
  under it can be read**.
-/

namespace StandardsGate

open Yaml (Node Document Decoding Parallel)

/-! ### Documents that are written anew -/

namespace Yaml

/-- Whether a node is a mapping, meant by another node, with one entry more. What was left out becomes
a mapping with that entry. -/
inductive Gains (d : Document) (entry : Node × Node) (n : Node) : Node → Prop
  | map {tag : Option String} (front back : List (Node × Node))
      (h : d.meant n = .map tag (front ++ back)) : Gains d entry n (.map tag (front ++ entry :: back))
  | absent (tag : Option String) (h : isAbsent (d.meant n) = true) :
      Gains d entry n (.map tag [entry])

/-- Whether a node is a mapping, meant by another node, in which one value has changed. -/
inductive Changes (d : Document) (changed : Node → Node → Node → Prop) (n : Node) : Node → Prop
  | value {tag : Option String} (front back : List (Node × Node)) {key x x' : Node}
      (h : d.meant n = .map tag (front ++ (key, x) :: back)) (hx : changed key x x') :
      Changes d changed n (.map tag (front ++ (key, x') :: back))

/-- Whether the events of a document are those of its root, as they are in every document that is read
from a text. -/
def Document.IsCounted (d : Document) : Prop := d.events = (d.root.map Node.events).getD 1

/-- A document with another root. -/
def Document.rewritten (d : Document) (root : Node) : Document :=
  ⟨some root, d.anchors, root.events⟩

theorem isCounted_document {text : String} {d : Document} (h : document text = .ok d) :
    d.IsCounted := by
  unfold document at h
  obtain ⟨ts, -, h⟩ := exists_of_bind_eq_ok h
  obtain ⟨⟨root, r⟩, -, h⟩ := exists_of_bind_eq_ok h
  cases h
  rfl

theorem one_le_events (n : Node) : 1 ≤ n.events := by
  rcases n with _ | _ | _ | _ <;> simp [Node.events]

theorem entryEvents_append (front back : List (Node × Node)) :
    Node.entryEvents (front ++ back) = Node.entryEvents front + Node.entryEvents back := by
  induction front with
  | nil => simp [Node.entryEvents]
  | cons e front ih =>
      obtain ⟨k, v⟩ := e
      rw [List.cons_append, Node.entryEvents, Node.entryEvents, ih]
      omega

variable {d : Document} {n n' : Node}

theorem events_le_of_meant {tag : Option String} {entries : List (Node × Node)}
    (h : d.meant n = .map tag entries) : n.events ≤ Node.entryEvents entries + 2 := by
  rcases n with id | _ | _ | _
  · simp [Node.events]
  · cases h
  · cases h
  · cases h
    simp [Node.events]

theorem Gains.events_le {entry : Node × Node} (h : Gains d entry n n') : n.events ≤ n'.events := by
  cases h with
  | map front back h =>
      have hle := events_le_of_meant h
      rw [entryEvents_append] at hle
      simp only [Node.events, entryEvents_append, Node.entryEvents]
      omega
  | absent tag h =>
      have hone : n.events ≤ 1 := by
        rcases n with _ | _ | _ | _
        · simp [Node.events]
        · simp [Node.events]
        · cases h
        · cases h
      exact Nat.le_trans hone (one_le_events _)

theorem Changes.events_le {changed : Node → Node → Node → Prop} (h : Changes d changed n n')
    (hchanged : ∀ key x x', changed key x x' → x.events ≤ x'.events) : n.events ≤ n'.events := by
  cases h with
  | value front back h hx =>
      have hle := events_le_of_meant h
      have hx := hchanged _ _ _ hx
      rw [entryEvents_append, Node.entryEvents] at hle
      simp only [Node.events, entryEvents_append, Node.entryEvents]
      omega

theorem Document.within_rewritten {root' : Node} (hcounted : d.IsCounted)
    (hevents : (d.root.getD (.scalar none true "")).events ≤ root'.events) :
    d.Within (d.rewritten root') := by
  refine ⟨fun id n h => h, ?_⟩
  rw [hcounted]
  cases hroot : d.root with
  | none => exact one_le_events root'
  | some root =>
      rw [hroot] at hevents
      exact hevents

end Yaml

open Yaml (Gains Changes)

/-- The places where keys can be added. -/
inductive Site
  | standard
  | declaration
deriving DecidableEq, Repr

/-- The keys that are known at a place. -/
def Site.keys : Site → List String
  | standard => Config.standardKeys
  | declaration => Config.declarationKeys

/-- How deep the values can nest that stand under the keys of a place. -/
def Site.room : Site → Nat
  | standard => Yaml.depthLimit - 2
  | declaration => Yaml.depthLimit - 4

/-- Whether a standard has an entry more: in the standard itself or in one of its declarations. -/
def Site.GainsInStandard (d : Document) (entry : Node × Node) : Site → Node → Node → Prop
  | standard => Gains d entry
  | declaration => Changes d fun key x x' =>
      d.Spells key "checkers" ∧ Changes d (fun _ n n' => Gains d entry n n') x x'

/-- Whether a root has an entry more in one of its standards. -/
def Site.Gains (site : Site) (d : Document) (entry : Node × Node) : Node → Node → Prop :=
  Changes d fun _ n n' => site.GainsInStandard d entry n n'

theorem Site.Gains.events_le {site : Site} {d : Document} {entry : Node × Node} {n n' : Node}
    (h : site.Gains d entry n n') : n.events ≤ n'.events := by
  refine Changes.events_le h fun _ x x' hx => ?_
  cases site with
  | standard => exact Yaml.Gains.events_le hx
  | declaration =>
      refine Changes.events_le hx ?_
      rintro _ y y' ⟨-, hy⟩
      exact hy.events_le fun _ _ _ hgains => hgains.events_le

/-! ### Entries that come in addition -/

namespace Config

variable {d d' : Document} (hwithin : d.Within d') {known keys : List String} {key : String}
  {v x x' : Node} {front back : List (String × Node)} {depth : Nat}

/-- A field does not depend on keys that are not its own. -/
theorem field?_insert (h : key ∉ keys) :
    field? keys (front ++ (key, v) :: back) = field? keys (front ++ back) := by
  unfold field?
  rw [List.filter_append, List.filter_append, List.filter_cons_of_neg (by simpa using h)]

/-- What is not known is read with one entry more, and has the outcome of that entry. -/
theorem parallel_extras_insert (hwithin : d.Within d') (h : key ∉ known) (hv : v.IsWrittenOut) :
    Parallel d d' ((v.read false depth).map fun _ => ()) (fun _ _ => True)
      (extras known depth (front ++ back)) (extras known depth (front ++ (key, v) :: back)) := by
  have hentry : Decoding.IsConstant (withKey (Yaml.value false depth) (key, v))
      (v.read false depth >>= fun value => .ok (key, value)) :=
    .bind (Yaml.isConstant_value hv false depth) fun value => .pure (key, value)
  have houtcome : ((v.read false depth >>= fun value => .ok (key, value)).map fun _ => ()) =
      (v.read false depth).map fun _ => () := by
    cases v.read false depth <;> rfl
  rw [extras_eq, extras_eq, List.filter_append, List.filter_append,
    List.filter_cons_of_pos (by simpa using h), ← houtcome]
  refine .bind_ok (.mapM_insert hentry fun e _ => ?_) fun _ _ _ => .pure trivial
  exact parallel_withKey (.value hwithin false depth) e

/-- The entries of a mapping with one entry more. -/
theorem parallel_keyed_insert (hwithin : d.Within d') (tag : Option String) (plain : Bool)
    (before after : List (Node × Node)) :
    Parallel d d' (.ok ())
      (fun es es' => ∃ front back, es = front ++ back ∧ es' = front ++ (key, v) :: back)
      (keyed (before ++ after)) (keyed (before ++ (.scalar tag plain key, v) :: after)) := by
  have hentry : Decoding.IsConstant (keyedEntry (.scalar tag plain key, v)) (.ok (key, v)) := .pure _
  rw [keyed_eq, keyed_eq]
  refine (Parallel.mapM_insert hentry fun e _ => parallel_keyedEntry hwithin e).imp ?_
  rintro es es' ⟨front, back, _, ⟨⟩, hes, hes'⟩
  exact ⟨front, back, hes, hes'⟩

/-- **A declaration with one entry more**, that is not known, stays the same if that can be read. -/
theorem parallel_declarationOf_insert (hwithin : d.Within d') (h : key ∉ declarationKeys)
    (hv : v.IsWrittenOut) :
    Parallel d d' ((v.read false depth).map fun _ => ()) CheckerDeclaration.Agrees
      (declarationOf depth (front ++ back)) (declarationOf depth (front ++ (key, v) :: back)) := by
  have hfield : ∀ keys : List String, keys ⊆ declarationKeys →
      field? keys (front ++ (key, v) :: back) = field? keys (front ++ back) :=
    fun keys hkeys => field?_insert fun hkey => h (hkeys hkey)
  have hidentity : identityOf (front ++ (key, v) :: back) = identityOf (front ++ back) := by
    rw [identityOf, identityOf, hfield _ (by decide)]
  have hextensions :
      extensionsOf depth (front ++ (key, v) :: back) = extensionsOf depth (front ++ back) := by
    rw [extensionsOf, extensionsOf, hfield _ (by decide)]
  have hoptions : optionsOf depth (front ++ (key, v) :: back) = optionsOf depth (front ++ back) := by
    rw [optionsOf, optionsOf, hfield _ (by decide)]
  unfold declarationOf
  rw [hidentity, hextensions, hoptions]
  refine .bind (parallel_identityOf hwithin _) ?_
  rintro identity _ rfl
  refine .bind (parallel_extensionsOf hwithin depth _) ?_
  rintro extensions _ rfl
  refine .bind (parallel_optionsOf hwithin depth _) ?_
  rintro options _ rfl
  exact .bind_ok (parallel_extras_insert hwithin h hv) fun _ _ _ => .pure ⟨rfl, rfl, rfl⟩

/-- **A standard with one entry more**, that is not known, stays the same if that can be read. -/
theorem parallel_standardOf_insert (hwithin : d.Within d') (h : key ∉ standardKeys)
    (hv : v.IsWrittenOut) (front back : List (String × Node)) :
    Parallel d d' ((v.read false depth).map fun _ => ()) Standard.Agrees
      (standardOf depth (front ++ back)) (standardOf depth (front ++ (key, v) :: back)) := by
  have hfield : ∀ keys : List String, keys ⊆ standardKeys →
      field? keys (front ++ (key, v) :: back) = field? keys (front ++ back) :=
    fun keys hkeys => field?_insert fun hkey => h (hkeys hkey)
  have hrules : ∀ name otherwise, name ∈ standardKeys →
      rulesOf name otherwise depth (front ++ (key, v) :: back) =
        rulesOf name otherwise depth (front ++ back) := by
    intro name otherwise hname
    rw [rulesOf, rulesOf, hfield _ (by simpa using hname)]
  have hcheckers : checkersOf depth (front ++ (key, v) :: back) = checkersOf depth (front ++ back) := by
    rw [checkersOf, checkersOf, hfield _ (by decide)]
  unfold standardOf
  rw [hrules "files" _ (by decide), hrules "exclude" _ (by decide), hcheckers]
  refine .bind (parallel_rulesOf hwithin _ _ depth _) ?_
  rintro files _ rfl
  refine .bind (parallel_rulesOf hwithin _ _ depth _) ?_
  rintro exclude _ rfl
  refine .bind (parallel_checkersOf hwithin depth _) ?_
  rintro checkers _ rfl
  refine .bind_ok (parallel_extras_insert hwithin h hv) fun _ _ _ => .pure ⟨rfl, rfl, ?_⟩
  exact .refl CheckerDeclaration.Agrees.refl checkers

/-! ### Values that change -/

/-- The entries of a mapping with another value of a key. -/
theorem parallel_keyed_replace (hwithin : d.Within d') {k : Node} (before after : List (Node × Node)) :
    Parallel d d' (.ok ())
      (fun es es' => ∃ front text back, d.Spells k text ∧ es = front ++ (text, x) :: back ∧
        es' = front ++ (text, x') :: back)
      (keyed (before ++ (k, x) :: after)) (keyed (before ++ (k, x') :: after)) := by
  have hentry : Parallel d d' (.ok ())
      (fun e e' : String × Node => ∃ text, d.Spells k text ∧ e = (text, x) ∧ e' = (text, x'))
      (keyedEntry (k, x)) (keyedEntry (k, x')) := by
    refine .bind (.text_spells hwithin k) ?_
    rintro text _ ⟨hspells, rfl⟩
    exact .pure ⟨text, hspells, rfl, rfl⟩
  rw [keyed_eq, keyed_eq]
  refine (Parallel.mapM_replace hentry fun e _ => parallel_keyedEntry hwithin e).imp ?_
  rintro es es' ⟨front, back, _, _, ⟨text, hspells, rfl, rfl⟩, hes, hes'⟩
  exact ⟨front, text, back, hspells, hes, hes'⟩

/-- **Named parts, one of which has changed**, agree if that one does. -/
theorem parallel_named_changes (hwithin : d.Within d') {α : Type} {read : Nat → Node → Decoding α}
    {R : α → α → Prop} (hR : ∀ a, R a a) {changed : Node → Node → Node → Prop}
    {outcome : Except Yaml.Fault Unit} {n n' : Node}
    (hread : ∀ n, Parallel d d' (.ok ()) Eq (read depth n) (read depth n))
    (hchanged : ∀ key x x', changed key x x' →
      Parallel d d' outcome R (read depth x) (read depth x'))
    (h : Changes d changed n n') :
    Parallel d d' outcome (OrderedMap.Agrees R) (named (depth + 1) read n)
      (named (depth + 1) read n') := by
  cases h with
  | @value tag before after key x x' hmeant hx =>
      rw [named_eq, named_eq]
      refine .bind (.mapping_map hmeant depth) ?_
      rintro _ _ ⟨rfl, rfl⟩
      refine .bind (parallel_keyed_replace hwithin before after) ?_
      rintro _ _ ⟨front, text, back, -, rfl, rfl⟩
      have hpart : Parallel d d' outcome (fun e e' : String × α => e'.1 = e.1 ∧ R e.2 e'.2)
          (withKey (read depth) (text, x)) (withKey (read depth) (text, x')) :=
        .bind_ok (hchanged key x x' hx) fun a b hab => .pure ⟨rfl, hab⟩
      refine .bind_ok (.mapM_replace hpart fun e _ => parallel_withKey hread e) ?_
      rintro _ _ ⟨front, back, e, e', he, rfl, rfl⟩
      have hself : ∀ es : List (String × α),
          List.Forall₂ (fun e e' => e'.1 = e.1 ∧ R e.2 e'.2) es es :=
        fun es => List.forall₂_same.2 fun e _ => ⟨rfl, hR e.2⟩
      exact .pure (OrderedMap.agrees_ofList (List.rel_append (hself front) (.cons he (hself back))))

/-- The value of a field that has changed. -/
theorem parallel_field?_replace :
    Parallel d d' (.ok ()) (fun a b => a = some x ∧ b = some x')
      (field? [key] (front ++ (key, x) :: back)) (field? [key] (front ++ (key, x') :: back)) := by
  unfold field?
  rw [List.filter_append, List.filter_append, List.filter_cons_of_pos (by simp),
    List.filter_cons_of_pos (by simp)]
  -- the field is there once, or else it cannot be read at all
  generalize front.filter (fun e => [key].contains e.1) = before,
    back.filter (fun e => [key].contains e.1) = after
  rcases before with _ | ⟨e, _ | ⟨e', es⟩⟩
  · rcases after with _ | ⟨e, es⟩
    · exact .pure ⟨rfl, rfl⟩
    · exact .throw _
  · exact .throw _
  · exact .throw _

/-- **A declaration with one entry more.** -/
theorem parallel_declaration_gains (hwithin : d.Within d') (h : key ∉ declarationKeys)
    (hv : v.IsWrittenOut) {tag : Option String} {plain : Bool} {n n' : Node}
    (hgains : Gains d (.scalar tag plain key, v) n n') :
    Parallel d d' ((v.read false depth).map fun _ => ()) CheckerDeclaration.Agrees
      (declaration (depth + 1) n) (declaration (depth + 1) n') := by
  rw [declaration_eq, declaration_eq]
  cases hgains with
  | map before after hmeant =>
      refine .bind (.mapping_map hmeant depth) ?_
      rintro _ _ ⟨rfl, rfl⟩
      refine .bind (parallel_keyed_insert hwithin tag plain _ _) ?_
      rintro _ _ ⟨front, back, rfl, rfl⟩
      exact parallel_declarationOf_insert hwithin h hv
  | absent tag' habsent =>
      refine .bind (.mapping_absent habsent depth) ?_
      rintro _ _ ⟨rfl, rfl⟩
      -- what was left out declares nothing
      exact .bind (R := fun es _ => es = []) (.pure rfl) fun es _ hes => hes ▸ .throw .missingField

/-- **A standard with one entry more.** -/
theorem parallel_standard_gains (hwithin : d.Within d') (h : key ∉ standardKeys)
    (hv : v.IsWrittenOut) {tag : Option String} {plain : Bool} {n n' : Node}
    (hgains : Gains d (.scalar tag plain key, v) n n') :
    Parallel d d' ((v.read false depth).map fun _ => ()) Standard.Agrees
      (standard (depth + 1) n) (standard (depth + 1) n') := by
  rw [standard_eq, standard_eq]
  cases hgains with
  | map before after hmeant =>
      refine .bind (.mapping_map hmeant depth) ?_
      rintro _ _ ⟨rfl, rfl⟩
      refine .bind (parallel_keyed_insert hwithin tag plain _ _) ?_
      rintro _ _ ⟨front, back, rfl, rfl⟩
      exact parallel_standardOf_insert hwithin h hv front back
  | absent tag' habsent =>
      refine .bind (.mapping_absent habsent depth) ?_
      rintro _ _ ⟨rfl, rfl⟩
      refine .bind (R := fun es es' => es = [] ∧ es' = [(key, v)]) (.pure ⟨rfl, rfl⟩) ?_
      rintro _ _ ⟨rfl, rfl⟩
      exact parallel_standardOf_insert hwithin h hv [] []

section Changes

variable (hwithin : d.Within d') (h : key ∉ declarationKeys) (hv : v.IsWrittenOut)
  {tag : Option String} {plain : Bool}
include hwithin h hv

/-- **Declarations, one of which has one entry more.** -/
theorem parallel_checkersOf_changes
    (hx : Changes d (fun _ n n' => Gains d (.scalar tag plain key, v) n n') x x')
    (front back : List (String × Node)) :
    Parallel d d' ((v.read false depth).map fun _ => ())
      (OrderedMap.Agrees CheckerDeclaration.Agrees)
      (checkersOf (depth + 2) (front ++ ("checkers", x) :: back))
      (checkersOf (depth + 2) (front ++ ("checkers", x') :: back)) := by
  refine .bind parallel_field?_replace ?_
  rintro _ _ ⟨rfl, rfl⟩
  cases hx with
  | value before after hmeant hgains =>
      refine .bind (.optional_map hmeant) ?_
      rintro _ _ ⟨rfl, rfl⟩
      exact parallel_named_changes hwithin CheckerDeclaration.Agrees.refl
        (parallel_declaration hwithin (depth + 1))
        (fun _ _ _ => parallel_declaration_gains hwithin h hv) (.value before after rfl hgains)

/-- The fields of a standard, one of whose declarations has one entry more. -/
theorem parallel_standardOf_changes
    (hx : Changes d (fun _ n n' => Gains d (.scalar tag plain key, v) n n') x x')
    (front back : List (String × Node)) :
    Parallel d d' ((v.read false depth).map fun _ => ()) Standard.Agrees
      (standardOf (depth + 2) (front ++ ("checkers", x) :: back))
      (standardOf (depth + 2) (front ++ ("checkers", x') :: back)) := by
  -- the other fields and what is not known do not depend on the declarations
  have hrules : ∀ name otherwise, name ≠ "checkers" →
      rulesOf name otherwise (depth + 2) (front ++ ("checkers", x') :: back) =
        rulesOf name otherwise (depth + 2) (front ++ ("checkers", x) :: back) := by
    intro name otherwise hname
    have hother : "checkers" ∉ [name] := by simpa using hname.symm
    rw [rulesOf, rulesOf, field?_insert hother, field?_insert hother]
  have hextras : extras standardKeys (depth + 2) (front ++ ("checkers", x') :: back) =
      extras standardKeys (depth + 2) (front ++ ("checkers", x) :: back) := by
    rw [extras_eq, extras_eq, List.filter_append, List.filter_append,
      List.filter_cons_of_neg (by simp [standardKeys]),
      List.filter_cons_of_neg (by simp [standardKeys])]
  unfold standardOf
  rw [hrules "files" _ (by decide), hrules "exclude" _ (by decide), hextras]
  refine .bind (parallel_rulesOf hwithin _ _ (depth + 2) _) ?_
  rintro files _ rfl
  refine .bind (parallel_rulesOf hwithin _ _ (depth + 2) _) ?_
  rintro exclude _ rfl
  refine .bind_ok (parallel_checkersOf_changes hwithin h hv hx front back)
    fun checkers checkers' hagree => ?_
  refine .bind (parallel_extras hwithin _ (depth + 2) _) ?_
  rintro extra _ rfl
  exact .pure ⟨rfl, rfl, hagree⟩

/-- **A standard, one of whose declarations has one entry more.** -/
theorem parallel_standard_changes {n n' : Node}
    (hgains : Site.declaration.GainsInStandard d (.scalar tag plain key, v) n n') :
    Parallel d d' ((v.read false depth).map fun _ => ()) Standard.Agrees
      (standard (depth + 3) n) (standard (depth + 3) n') := by
  rw [standard_eq, standard_eq]
  cases hgains with
  | value before after hmeant hx =>
      obtain ⟨hchecker, hx⟩ := hx
      refine .bind (.mapping_map hmeant (depth + 2)) ?_
      rintro _ _ ⟨rfl, rfl⟩
      refine .bind (parallel_keyed_replace hwithin before after) ?_
      rintro _ _ ⟨front, text, back, hspells, rfl, rfl⟩
      obtain rfl : text = "checkers" := Yaml.Document.Spells.unique hspells hchecker
      exact parallel_standardOf_changes hwithin h hv hx front back

end Changes

/-- **A root with one entry more in one of its standards.** -/
theorem parallel_ofNode_gains (hwithin : d.Within d') {site : Site} (h : key ∉ site.keys)
    (hv : v.IsWrittenOut) {tag : Option String} {plain : Bool} {n n' : Node}
    (hgains : site.Gains d (.scalar tag plain key, v) n n') :
    Parallel d d' ((v.read false site.room).map fun _ => ()) Config.Agrees (ofNode n)
      (ofNode n') := by
  have hstandard : ∀ (_ : Node) x x', site.GainsInStandard d (.scalar tag plain key, v) x x' →
      Parallel d d' ((v.read false site.room).map fun _ => ()) Standard.Agrees
        (standard (Yaml.depthLimit - 1) x) (standard (Yaml.depthLimit - 1) x') := by
    intro _ x x' hx
    cases site with
    | standard => exact parallel_standard_gains hwithin h hv hx
    | declaration => exact parallel_standard_changes hwithin h hv hx
  exact .bind_ok (parallel_named_changes hwithin Standard.Agrees.refl
    (parallel_standard hwithin (Yaml.depthLimit - 1)) hstandard hgains) fun _ _ hagree => .pure hagree

/-! ### Configurations -/

/-- The configuration of a document, validated. -/
def ofDocument (d : Document) : Except ConfigError Config := do
  let c ← (Yaml.decode d ofNode).mapError .malformedStandards
  validate c
  return c

/-- **The configuration of a text is that of its document.** -/
theorem ofYaml_eq_ofDocument {yaml : String} (hblank : Text.isAllBlank yaml = false)
    (h : Yaml.document yaml = .ok d) : ofYaml yaml = ofDocument d := by
  unfold ofYaml decode
  rw [hblank, h]
  rfl

theorem ofDocument_eq_ok {c : Config} (h : ofDocument d = .ok c) :
    Yaml.decode d ofNode = .ok c ∧ c.validate = .ok () := by
  obtain ⟨c', hdecode, h⟩ := exists_of_bind_eq_ok h
  obtain ⟨⟨⟩, hvalid, ⟨⟩⟩ := exists_of_bind_eq_ok h
  refine ⟨?_, hvalid⟩
  cases hread : Yaml.decode d ofNode with
  | error fault =>
      rw [hread] at hdecode
      cases hdecode
  | ok c' =>
      rw [hread] at hdecode
      cases hdecode
      rfl

theorem ofDocument_of_decode {c : Config} (hdecode : Yaml.decode d ofNode = .ok c)
    (hvalid : c.validate = .ok ()) : ofDocument d = .ok c := by
  rw [ofDocument, hdecode]
  exact congrArg (· >>= fun _ => .ok c) hvalid

/-- **A key that is not known changes nothing, exactly if what stands under it can be read.** A
document is accepted; then it is given one such key, in one of its standards or in one of their
declarations. If the value under the key cannot be read there, the document is no longer accepted.
Otherwise it is, and declares the same as before. A value that can be read as an option of a checker
can be read there exactly if it fits: it has no tags and does not nest too deep. -/
theorem ofDocument_rewritten {c : Config} {site : Site} {tag : Option String} {plain : Bool}
    {root' : Node} (hcounted : d.IsCounted) (haccepted : ofDocument d = .ok c)
    (hgains : site.Gains d (.scalar tag plain key, v) (d.root.getD (.scalar none true "")) root')
    (hkey : key ∉ site.keys) (hv : v.IsWrittenOut) :
    (∀ fault, v.read false site.room = .error fault →
      ofDocument (d.rewritten root') = .error (.malformedStandards fault)) ∧
    (∀ value, v.read false site.room = .ok value →
      ∃ c', ofDocument (d.rewritten root') = .ok c' ∧ c.Agrees c') ∧
    ∀ value depth, v.read true depth = .ok value →
      ((∃ c', ofDocument (d.rewritten root') = .ok c' ∧ c.Agrees c') ↔
        value.fits site.room = true) := by
  obtain ⟨hdecode, hvalid⟩ := ofDocument_eq_ok haccepted
  have hparallel := parallel_ofNode_gains (Document.within_rewritten hcounted hgains.events_le) hkey
    hv hgains
  have hrejected : ∀ fault, v.read false site.room = .error fault →
      ofDocument (d.rewritten root') = .error (.malformedStandards fault) := by
    intro fault hfault
    rw [hfault] at hparallel
    have hdecode' : Yaml.decode (d.rewritten root') ofNode = .error fault :=
      hparallel.decode_eq_error hdecode
    rw [ofDocument, hdecode']
    rfl
  have hsame : ∀ value, v.read false site.room = .ok value →
      ∃ c', ofDocument (d.rewritten root') = .ok c' ∧ c.Agrees c' := by
    intro value hvalue
    rw [hvalue] at hparallel
    obtain ⟨c', hdecode', hagrees⟩ := hparallel.exists_decode_eq_ok hdecode
    exact ⟨c', ofDocument_of_decode hdecode' ((validate_congr hagrees).trans hvalid), hagrees⟩
  refine ⟨hrejected, hsame, fun value depth hvalue => ?_⟩
  have hfits := Yaml.read_false_eq_ok_iff hv hvalue site.room
  constructor
  · rintro ⟨c', haccepted', -⟩
    cases hread : v.read false site.room with
    | error fault =>
        rw [hrejected fault hread] at haccepted'
        cases haccepted'
    | ok value' => exact ((hfits value').1 hread).2
  · exact fun h => hsame value ((hfits value).2 ⟨rfl, h⟩)

/-- A plain scalar. -/
def word (text : String) : Node := .scalar none true text

/-- A standard with one checker, with more entries in the standard and in the declaration. -/
def guarded (inStandard inDeclaration : List (Node × Node)) : Node :=
  .map none [(word "web", .map none
    ((word "checkers", .map none
      [(word "words", .map none ((word "checker", word "forbidden_words") :: inDeclaration))]) ::
        inStandard))]

/-- The standard with one checker, and no more entries. -/
def guardedDocument : Document := ⟨some (guarded [] []), [], (guarded [] []).events⟩

/-- A list of two numbers, by name. -/
def limits : Node := .map none [(word "limits", .seq none [word "1", word "0x20"])]

/-- A scalar under a tag. -/
def tagged : Node := .scalar (some "!x") true "a"

theorem isOk_guardedDocument : (ofDocument guardedDocument).isOk = true := by
  decide +kernel

theorem isWrittenOut_limits : limits.IsWrittenOut := by
  refine .map none ?_ ?_
  · intro e he
    obtain rfl := List.mem_singleton.1 he
    exact .scalar none true "limits"
  · intro e he
    obtain rfl := List.mem_singleton.1 he
    refine .seq none fun n hn => ?_
    obtain rfl | hn := List.mem_cons.1 hn
    · exact .scalar none true "1"
    · obtain rfl := List.mem_singleton.1 hn
      exact .scalar none true "0x20"

/-- A declaration with a note that has no tags is accepted. -/
theorem ofDocument_rewritten_guarded :
    ∃ c c', ofDocument guardedDocument = .ok c ∧
      ofDocument (guardedDocument.rewritten (guarded [] [(word "note", limits)])) = .ok c' ∧
      c.Agrees c' := by
  have haccepted := eq_ok_getD isOk_guardedDocument
  have hcounted : guardedDocument.IsCounted := rfl
  have hgains : Site.declaration.Gains guardedDocument (word "note", limits) (guarded [] [])
      (guarded [] [(word "note", limits)]) :=
    .value [] [] rfl (.value [] [] rfl ⟨⟨none, true, rfl⟩,
      .value [] [] rfl (.map [(word "checker", word "forbidden_words")] [] rfl)⟩)
  obtain ⟨-, -, hiff⟩ :=
    ofDocument_rewritten hcounted haccepted hgains (by decide) isWrittenOut_limits
  obtain ⟨c', haccepted', hagrees⟩ := (hiff _ 2 rfl).2 (by decide +kernel)
  exact ⟨_, c', haccepted, haccepted', hagrees⟩

/-- A standard with a note under a tag is not accepted, as a document and as a text. The note can be
read as an option of a checker. -/
theorem rejected_tagged_note :
    (ofDocument guardedDocument).isOk = true ∧
      Site.standard.Gains guardedDocument (word "note", tagged) (guarded [] [])
        (guarded [(word "note", tagged)] []) ∧
      "note" ∉ Site.standard.keys ∧ tagged.IsWrittenOut ∧
      tagged.read true 1 = .ok (.tagged "x" (.str "a")) ∧
      ofDocument (guardedDocument.rewritten (guarded [(word "note", tagged)] [])) =
        .error (.malformedStandards .wrongType) ∧
      (ofYaml "web: \x7b\x7d\n").isOk = true ∧ (ofYaml "web:\n  note: !x a\n").isOk = false := by
  refine ⟨isOk_guardedDocument, ?_, by decide, .scalar _ true "a", rfl, rfl, by decide +kernel,
    by decide +kernel⟩
  exact .value [] [] rfl (.map [(word "checkers", _)] [] rfl)

end Config

end StandardsGate
