import Mathlib.Data.List.Forall2
import StandardsGate.Standards.Validation

/-!
Configurations that declare the same.

Two configurations agree if they have the same standards in the same order, each of which has the same
rules and the same declarations; what stands under keys that are not known may differ. If one of two
configurations that agree is valid, the other one is.

Main definitions:

* `Config.Agrees` — whether configurations declare the same but for keys that are not known.

Main results:

* `OrderedMap.agrees_ofList` — maps agree if the insertions that make them do;
* `Config.validate_congr` — **configurations that agree are equally valid**.
-/

namespace StandardsGate

/-! ### Configurations that agree -/

/-- Whether two maps have the same keys in the same order, with related values. -/
def OrderedMap.Agrees {α : Type} (R : α → α → Prop) (m m' : OrderedMap String α) : Prop :=
  List.Forall₂ (fun e e' => e'.1 = e.1 ∧ R e.2 e'.2) m.entries m'.entries

/-- Whether two declarations say the same, but for keys that are not known. -/
structure CheckerDeclaration.Agrees (d d' : CheckerDeclaration) : Prop where
  identity : d'.identity = d.identity
  extensions : d'.extensions = d.extensions
  options : d'.options = d.options

/-- Whether two standards say the same, but for keys that are not known. -/
structure Standard.Agrees (s s' : Standard) : Prop where
  files : s'.files = s.files
  exclude : s'.exclude = s.exclude
  checkers : s.checkers.Agrees CheckerDeclaration.Agrees s'.checkers

/-- Whether two configurations declare the same standards in the same order, but for keys that are not
known. -/
def Config.Agrees (c c' : Config) : Prop := c.standards.Agrees Standard.Agrees c'.standards

theorem CheckerDeclaration.Agrees.refl (d : CheckerDeclaration) : d.Agrees d := ⟨rfl, rfl, rfl⟩

namespace OrderedMap

variable {α : Type} {R : α → α → Prop}

theorem Agrees.refl (hR : ∀ a, R a a) (m : OrderedMap String α) : m.Agrees R m :=
  List.forall₂_same.2 fun e _ => ⟨rfl, hR e.2⟩

theorem forall₂_setEntry {es es' : List (String × α)} {key : String} {a a' : α} (ha : R a a')
    (h : List.Forall₂ (fun e e' => e'.1 = e.1 ∧ R e.2 e'.2) es es') :
    List.Forall₂ (fun e e' => e'.1 = e.1 ∧ R e.2 e'.2) (setEntry key a es)
      (setEntry key a' es') := by
  induction h with
  | nil => exact .cons ⟨rfl, ha⟩ .nil
  | @cons e e' es es' he hes ih =>
      obtain ⟨k, v⟩ := e
      obtain ⟨k', v'⟩ := e'
      obtain ⟨rfl, hv⟩ := he
      unfold setEntry
      split
      · exact .cons ⟨rfl, ha⟩ hes
      · exact .cons ⟨rfl, hv⟩ ih

/-- Insertions that agree make maps that agree. -/
theorem agrees_ofList {es es' : List (String × α)}
    (h : List.Forall₂ (fun e e' => e'.1 = e.1 ∧ R e.2 e'.2) es es') :
    (ofList es).Agrees R (ofList es') := by
  suffices hfold : ∀ m m' : OrderedMap String α, m.Agrees R m' →
      (es.foldl (fun m e => m.insert e.1 e.2) m).Agrees R
        (es'.foldl (fun m e => m.insert e.1 e.2) m') from hfold empty empty .nil
  induction h with
  | nil => exact fun m m' hm => hm
  | cons he _ ih =>
      intro m m' hm
      refine ih _ _ ?_
      dsimp only
      rw [he.1]
      exact forall₂_setEntry he.2 hm

end OrderedMap

theorem Standard.Agrees.refl (s : Standard) : s.Agrees s :=
  ⟨rfl, rfl, .refl CheckerDeclaration.Agrees.refl s.checkers⟩

/-! ### Validation -/

theorem forM_congr_of_forall₂ {α β ε : Type} {f : α → Except ε Unit} {g : β → Except ε Unit}
    {as : List α} {bs : List β} (h : List.Forall₂ (fun a b => g b = f a) as bs) :
    bs.forM g = as.forM f := by
  induction h with
  | nil => rfl
  | cons h _ ih => simp only [List.forM, h, ih]

namespace Config

/-- Keys that are not known are not validated. -/
theorem validateStandard_congr {name : String} {s s' : Standard} (h : s.Agrees s') :
    validateStandard name s' = validateStandard name s := by
  have hcheckers : s'.checkers.entries.forM (fun e => validateDeclaration name e.1 e.2) =
      s.checkers.entries.forM fun e => validateDeclaration name e.1 e.2 := by
    refine forM_congr_of_forall₂ (h.checkers.imp ?_)
    rintro e e' ⟨hkey, hdeclaration⟩
    unfold validateDeclaration
    rw [hkey, hdeclaration.identity, hdeclaration.extensions]
  unfold validateStandard
  rw [h.files, h.exclude, hcheckers]

theorem validate_congr {c c' : Config} (h : c.Agrees c') : c'.validate = c.validate := by
  refine forM_congr_of_forall₂ (h.imp ?_)
  rintro e e' ⟨hkey, hstandard⟩
  rw [hkey, validateStandard_congr hstandard]

end Config

end StandardsGate
