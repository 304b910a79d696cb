import StandardsGate.Proofs.Host.Action
import StandardsGate.Standards.Grouping
import StandardsGate.Standards.Validation
import Mathlib.Data.List.Forall2

/-!
Which files a standard gets.

A configuration that was read from a text has rules that compile, so its files can be assigned. The
files of a standard can be read off its declaration: they are those that its rules cover, and that
those of no standard before it cover.

Main definitions:

* `Standard.covers` — whether the rules of a declared standard cover a path;
* `Config.standardOf?`, `Config.filesOf` — the standard of a path, and the files of a standard.

Main results:

* `Config.compiles_of_ofYaml` — **the rules of a configuration that was read compile**;
* `Assignment.exists_ofConfig` — so its files can be assigned to standards;
* `Assignment.groups_eq` — **the files of each standard**, in terms of the declarations.
-/

namespace StandardsGate

/-- Whether one of the rules matches a path. Rules that do not compile match nothing. -/
def Rules.cover (rules : List String) (path : String) : Bool :=
  match Rules.compile rules with
  | .ok compiled => compiled.isMatch path
  | .error _ => false

/-- Whether a standard has a rule for a path, and none against it. -/
def Standard.covers (s : Standard) (path : String) : Bool :=
  Rules.cover s.files path && !Rules.cover s.exclude path

/-- Whether the rules of a standard compile. -/
structure Standard.Compiles (s : Standard) : Prop where
  files : ∃ compiled, Rules.compile s.files = .ok compiled
  exclude : ∃ compiled, Rules.compile s.exclude = .ok compiled

namespace Config

/-- The first standard that covers a path. -/
def standardOf? (c : Config) (path : String) : Option String :=
  (c.standards.entries.find? fun e => e.2.covers path).map Prod.fst

/-- The files of a standard. -/
def filesOf (c : Config) (files : List EditedFile) (standard : String) : List EditedFile :=
  files.filter fun f => c.standardOf? f.name = some standard

/-! ### Configurations that were read -/

theorem exists_compile_of_validateRules {standard : String} {kind : RuleKind}
    {rules : List String} (h : validateRules standard kind rules = .ok ()) :
    ∃ compiled, Rules.compile rules = .ok compiled := by
  unfold validateRules at h
  split at h
  · exact ⟨_, by assumption⟩
  · cases h

theorem compiles_of_validateStandard {name : String} {s : Standard}
    (h : validateStandard name s = .ok ()) : s.Compiles := by
  obtain ⟨⟨⟩, hfiles, h⟩ := exists_of_bind_eq_ok h
  obtain ⟨⟨⟩, hexclude, -⟩ := exists_of_bind_eq_ok h
  exact ⟨exists_compile_of_validateRules hfiles, exists_compile_of_validateRules hexclude⟩

/-- **The rules of a configuration that was read compile.** -/
theorem compiles_of_ofYaml {yaml : String} {c : Config} (h : ofYaml yaml = .ok c) :
    ∀ e ∈ c.standards.entries, e.2.Compiles := by
  unfold ofYaml at h
  split at h
  · -- an empty document declares no standard
    obtain rfl : (⟨∅⟩ : Config) = c := Except.ok.inj h
    intro e he
    cases he
  · obtain ⟨decoded, -, h⟩ := exists_of_bind_eq_ok h
    obtain ⟨⟨⟩, hvalid, h⟩ := exists_of_bind_eq_ok h
    obtain rfl : decoded = c := Except.ok.inj h
    exact fun e he => compiles_of_validateStandard (eq_ok_of_forM_eq_ok hvalid e he)

end Config

namespace Assignment

/-! ### Compiled rules -/

/-- Whether compiled rules are those of a declared standard. -/
structure Compiled (declared : String × Standard) (m : Matcher) : Prop where
  standard : m.standard = declared.1
  covers : ∀ path, m.covers path = declared.2.covers path

theorem exists_matcher {s : Standard} (h : s.Compiles) (name : String) :
    ∃ m, matcher name s = .ok m ∧ Compiled (name, s) m := by
  obtain ⟨inclusion, hinclusion⟩ := h.files
  obtain ⟨exclusion, hexclusion⟩ := h.exclude
  refine ⟨⟨name, inclusion, exclusion⟩, ?_, rfl, fun path => ?_⟩
  · simp [matcher, compileRules, hinclusion, hexclusion, Except.mapError, bind, Except.bind, pure,
      Except.pure]
  · simp [Matcher.covers, Standard.covers, Rules.cover, hinclusion, hexclusion]

theorem exists_mapM_matcher {es : List (String × Standard)} (h : ∀ e ∈ es, e.2.Compiles) :
    ∃ ms, es.mapM (fun e => matcher e.1 e.2) = .ok ms ∧ List.Forall₂ Compiled es ms := by
  induction es with
  | nil => exact ⟨[], rfl, .nil⟩
  | cons e es ih =>
      obtain ⟨hcompiles, hrest⟩ := List.forall_mem_cons.1 h
      obtain ⟨m, hm, hcompiled⟩ := exists_matcher hcompiles e.1
      obtain ⟨ms, hms, hall⟩ := ih hrest
      refine ⟨m :: ms, ?_, .cons hcompiled hall⟩
      rw [List.mapM_cons, hm, hms]
      rfl

/-- **The files of a configuration whose rules compile can be assigned.** -/
theorem exists_ofConfig {c : Config} (h : ∀ e ∈ c.standards.entries, e.2.Compiles) :
    ∃ a, ofConfig c = .ok a ∧ List.Forall₂ Compiled c.standards.entries a.matchers := by
  obtain ⟨ms, hms, hall⟩ := exists_mapM_matcher h
  exact ⟨⟨ms⟩, by rw [ofConfig, hms]; rfl, hall⟩

/-! ### The files of each standard -/

variable {c : Config} {a : Assignment}

theorem standardOf?_eq (h : List.Forall₂ Compiled c.standards.entries a.matchers) (path : String) :
    a.standardOf? path = c.standardOf? path := by
  unfold standardOf? Config.standardOf?
  generalize c.standards.entries = es at h
  generalize a.matchers = ms at h
  induction h with
  | nil => rfl
  | @cons e m es ms hcompiled _ ih =>
      rw [List.find?_cons, List.find?_cons, hcompiled.covers path]
      cases e.2.covers path with
      | true => exact congrArg some hcompiled.standard
      | false => exact ih

/-- **The files of each standard that has some**, in the order of declaration. -/
theorem groups_eq (h : List.Forall₂ Compiled c.standards.entries a.matchers)
    (files : List EditedFile) :
    a.groups files =
      (c.standards.entries.map fun e => ⟨e.1, c.filesOf files e.1⟩).filter
        fun g : Group => !g.files.isEmpty := by
  have hfiles : ∀ standard, (files.filter fun f => a.standardOf? f.name = some standard) =
      c.filesOf files standard := by
    intro standard
    simp only [Config.filesOf, standardOf?_eq h]
  have hgroups : (a.matchers.map fun m => (⟨m.standard, c.filesOf files m.standard⟩ : Group)) =
      c.standards.entries.map fun e => ⟨e.1, c.filesOf files e.1⟩ := by
    generalize c.filesOf files = filesOf
    generalize c.standards.entries = es at h
    generalize a.matchers = ms at h
    induction h with
    | nil => rfl
    | cons hcompiled _ ih => rw [List.map_cons, List.map_cons, ih, hcompiled.standard]
  simp only [groups, hfiles, hgroups]

end Assignment

end StandardsGate
