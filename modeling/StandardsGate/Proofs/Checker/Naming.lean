import StandardsGate.Checker.Registry

/-!
How far the listings of a registry can be relied on.

A registry changes by registrations and by other spellings, in any order and with names that
clash. What it lists is what was set last. What it builds under a name is what was registered last
for the identity that the name stands for, and a spelling goes before an identity of the same name:
an identity that has been made a spelling of another one is listed, but no longer built. Such an
identity is shadowed, and it is the only exception.

Main definitions:

* `Registry.Change`, `Registry.changed` — a registration or another spelling, and a series of them;
* `Registry.lastRegistration`, `Registry.lastMeaning` — what a series sets last;
* `Registry.Shadowed` — whether a name is a spelling of an identity that is built differently;
* `Registry.Alike` — whether two names are built with the same outcome.

Main results:

* `Registry.builder?_changed` — what is built under any name after a series of changes;
* `Registry.listings_changed` — **a listed identity is built by its last registration, and a listed
  spelling like its identity, exactly if the identity is not shadowed**.
-/

namespace StandardsGate.Registry

variable {σ : Type} {r : Registry σ}

/-! ### Series of changes -/

/-- A change of a registry. -/
inductive Change (σ : Type) where
  /-- Registers the checkers of an identity. -/
  | registration (identity : String) (registered : Registration σ)
  /-- Lets a text stand for an identity. -/
  | spelling (text identity : String)

/-- A registry after a change. -/
def change (r : Registry σ) : Change σ → Registry σ
  | .registration identity registered =>
      r.register identity registered.defaultExtensions registered.build
  | .spelling text identity => r.addAlias text identity

/-- A registry after a series of changes. -/
def changed (r : Registry σ) (changes : List (Change σ)) : Registry σ := changes.foldl change r

/-- What a change registers for an identity. -/
def Change.registered? (identity : String) : Change σ → Option (Registration σ)
  | .registration name registered => if identity = name then some registered else none
  | .spelling .. => none

/-- The identity for which a change lets a text stand. -/
def Change.meaning? (text : String) : Change σ → Option String
  | .registration .. => none
  | .spelling name identity => if text = name then some identity else none

/-- What is set at last: by the last of the changes that set it, or before all of them. -/
def lastSet {α : Type} (set? : Change σ → Option α) (changes : List (Change σ))
    (before : Option α) : Option α :=
  (changes.filterMap set?).getLast?.or before

/-- What was last registered for an identity. -/
def lastRegistration (r : Registry σ) (changes : List (Change σ)) (identity : String) :
    Option (Registration σ) :=
  lastSet (Change.registered? identity) changes (r.entries.get? identity)

/-- The identity for which a text was last made to stand. -/
def lastMeaning (r : Registry σ) (changes : List (Change σ)) (text : String) : Option String :=
  lastSet (Change.meaning? text) changes (r.aliases.get? text)

theorem lastSet_cons {α : Type} (set? : Change σ → Option α) (c : Change σ)
    (changes : List (Change σ)) (before : Option α) :
    lastSet set? (c :: changes) before = lastSet set? changes ((set? c).or before) := by
  unfold lastSet
  cases hset : set? c with
  | none => rw [List.filterMap_cons_none hset, Option.none_or]
  | some a =>
      rw [List.filterMap_cons_some hset, List.getLast?_cons]
      cases (changes.filterMap set?).getLast? <;> rfl

/-- What each change sets or leaves, a series sets last. -/
theorem eq_lastSet_of_change {α : Type} (read : Registry σ → Option α)
    {set? : Change σ → Option α} (hread : ∀ r c, read (change r c) = (set? c).or (read r))
    (r : Registry σ) (changes : List (Change σ)) :
    read (r.changed changes) = lastSet set? changes (read r) := by
  induction changes generalizing r with
  | nil => rfl
  | cons c changes ih =>
      rw [lastSet_cons, ← hread r c]
      exact ih (change r c)

theorem get?_entries_changed (r : Registry σ) (changes : List (Change σ)) (identity : String) :
    (r.changed changes).entries.get? identity = r.lastRegistration changes identity := by
  refine eq_lastSet_of_change (fun r => r.entries.get? identity) (fun r c => ?_) r changes
  cases c with
  | registration name registered =>
      simp only [change, register, SortedMap.get?_insert, Change.registered?]
      split <;> rfl
  | spelling text name => rfl

theorem get?_aliases_changed (r : Registry σ) (changes : List (Change σ)) (text : String) :
    (r.changed changes).aliases.get? text = r.lastMeaning changes text := by
  refine eq_lastSet_of_change (fun r => r.aliases.get? text) (fun r c => ?_) r changes
  cases c with
  | registration name registered => rfl
  | spelling name identity =>
      simp only [change, addAlias, SortedMap.get?_insert, Change.meaning?]
      split <;> rfl

/-! ### What is listed -/

theorem mem_identities_iff {identity : String} {extensions : List String} :
    (identity, extensions) ∈ r.identities ↔
      ∃ registered, r.entries.get? identity = some registered ∧
        registered.defaultExtensions = extensions := by
  simp only [← SortedMap.mem_entries_iff, identities, List.mem_map, Prod.mk.injEq]
  constructor
  · rintro ⟨⟨name, registered⟩, hlisted, rfl, rfl⟩
    exact ⟨registered, hlisted, rfl⟩
  · rintro ⟨registered, hlisted, rfl⟩
    exact ⟨(identity, registered), hlisted, rfl, rfl⟩

theorem mem_spellings_iff {text identity : String} :
    (text, identity) ∈ r.spellings ↔ r.aliases.get? text = some identity :=
  SortedMap.mem_entries_iff

/-! ### What is built -/

/-- The builder that is used for a name. -/
def builder? (r : Registry σ) (name : String) : Option (Settings → Action σ (Checker σ)) :=
  (r.resolve name).map Registration.build

/-- The builder that is registered for an identity. -/
def ownBuilder? (r : Registry σ) (identity : String) :
    Option (Settings → Action σ (Checker σ)) :=
  (r.entries.get? identity).map Registration.build

/-- What comes of a name that stands for nothing. -/
def refuse (r : Registry σ) (name : String) (s : Settings) : Action σ (Checker σ) :=
  throw (.config (.unknownChecker name s.name (r.identities.map (·.1))))

/-- Whether a name is a spelling of an identity for which something else is registered than for the
name itself. -/
def Shadowed (r : Registry σ) (name : String) : Prop :=
  ∃ identity, (name, identity) ∈ r.spellings ∧ r.ownBuilder? identity ≠ r.ownBuilder? name

/-- Whether two names are built with the same outcome, apart from the name in the error if both
stand for nothing. -/
def Alike (r : Registry σ) (name other : String) : Prop :=
  ∀ s, r.build name s = r.build other s ∨
    r.build name s = r.refuse name s ∧ r.build other s = r.refuse other s

theorem build_of_builder?_eq_some {name : String} {build : Settings → Action σ (Checker σ)}
    (h : r.builder? name = some build) (s : Settings) : r.build name s = build s := by
  obtain ⟨registered, hresolve, rfl⟩ := Option.map_eq_some_iff.1 h
  unfold Registry.build
  rw [hresolve]

theorem build_of_builder?_eq_none {name : String} (h : r.builder? name = none) (s : Settings) :
    r.build name s = r.refuse name s := by
  unfold Registry.build
  rw [Option.map_eq_none_iff.1 h]
  rfl

/-- Names with the same builder have the same outcome. -/
theorem alike_of_builder?_eq {name other : String} (h : r.builder? name = r.builder? other) :
    r.Alike name other := by
  intro s
  cases hother : r.builder? other with
  | none =>
      exact .inr ⟨build_of_builder?_eq_none (h.trans hother) s, build_of_builder?_eq_none hother s⟩
  | some build =>
      left
      rw [build_of_builder?_eq_some hother, build_of_builder?_eq_some (h.trans hother)]

/-- A spelling is built like what is registered for its identity. -/
theorem builder?_of_mem_spellings {text identity : String} (h : (text, identity) ∈ r.spellings) :
    r.builder? text = r.ownBuilder? identity := by
  unfold builder? ownBuilder? resolve canonical
  rw [mem_spellings_iff.1 h]
  rfl

/-- **A name is built like what is registered for it exactly if it is not shadowed.** -/
theorem builder?_eq_ownBuilder?_iff (r : Registry σ) (name : String) :
    r.builder? name = r.ownBuilder? name ↔ ¬ r.Shadowed name := by
  constructor
  · rintro h ⟨identity, hlisted, hne⟩
    exact hne ((builder?_of_mem_spellings hlisted).symm.trans h)
  · intro h
    cases hmeaning : r.aliases.get? name with
    | none =>
        unfold builder? ownBuilder? resolve canonical
        rw [hmeaning]
        rfl
    | some identity =>
        have hlisted : (name, identity) ∈ r.spellings := mem_spellings_iff.2 hmeaning
        rw [builder?_of_mem_spellings hlisted]
        exact Classical.byContradiction fun hne => h ⟨identity, hlisted, hne⟩

/-- **What is built under a name after a series of changes**: what was registered last for the
identity for which the name was last made to stand, or for the name if it stands for none. -/
theorem builder?_changed (r : Registry σ) (changes : List (Change σ)) (name : String) :
    (r.changed changes).builder? name =
      (r.lastRegistration changes ((r.lastMeaning changes name).getD name)).map
        Registration.build := by
  unfold builder? resolve canonical
  rw [get?_entries_changed, get?_aliases_changed]

/-- **What can be relied on after a series of changes.** Each listed identity has the extensions of
its last registration, and each listed spelling is listed with the identity for which it was last
made to stand. The identity is built by its last registration, and the spelling like the identity,
exactly if the identity is not shadowed. -/
theorem listings_changed (r : Registry σ) (changes : List (Change σ)) :
    (∀ identity extensions, (identity, extensions) ∈ (r.changed changes).identities →
      ∃ registered, r.lastRegistration changes identity = some registered ∧
        registered.defaultExtensions = extensions ∧
        ((r.changed changes).builder? identity = some registered.build ↔
          ¬ (r.changed changes).Shadowed identity) ∧
        (¬ (r.changed changes).Shadowed identity →
          ∀ s, (r.changed changes).build identity s = registered.build s)) ∧
    (∀ text identity, (text, identity) ∈ (r.changed changes).spellings →
      r.lastMeaning changes text = some identity ∧
        ((r.changed changes).builder? text = (r.changed changes).builder? identity ↔
          ¬ (r.changed changes).Shadowed identity) ∧
        (¬ (r.changed changes).Shadowed identity → (r.changed changes).Alike text identity)) := by
  constructor
  · intro identity extensions hlisted
    obtain ⟨registered, hget, hextensions⟩ := mem_identities_iff.1 hlisted
    have hown : (r.changed changes).ownBuilder? identity = some registered.build := by
      unfold ownBuilder?
      rw [hget, Option.map_some]
    have hbuilder := hown ▸ builder?_eq_ownBuilder?_iff (r.changed changes) identity
    refine ⟨registered, (get?_entries_changed ..).symm.trans hget, hextensions, hbuilder, ?_⟩
    intro hshadowed s
    exact build_of_builder?_eq_some (hbuilder.2 hshadowed) s
  · intro text identity hlisted
    have hbuilder : (r.changed changes).builder? text = (r.changed changes).builder? identity ↔
        ¬ (r.changed changes).Shadowed identity := by
      rw [builder?_of_mem_spellings hlisted, eq_comm]
      exact builder?_eq_ownBuilder?_iff ..
    refine ⟨(get?_aliases_changed ..).symm.trans (mem_spellings_iff.1 hlisted), hbuilder, ?_⟩
    intro hshadowed
    exact alike_of_builder?_eq (hbuilder.2 hshadowed)

/-- The checker that inspects nothing, for files with an extension. -/
def plain (extension : String) : Registration Unit where
  defaultExtensions := [extension]
  build s := return ⟨s, [extension], fun _ => return []⟩

/-- Two identities, the first of which is made a spelling of the second one, and a spelling of the
first one. -/
def clash : List (Change Unit) :=
  [.registration "x" (plain "a"), .registration "y" (plain "b"), .spelling "x" "y",
    .spelling "z" "x"]

/-- After the clash, `x` is listed with the extensions of its registration and built by another one,
and its spelling is not built like it. -/
theorem not_listings_clash :
    ¬ (∀ identity extensions, (identity, extensions) ∈ (empty.changed clash).identities →
      ∃ registered, empty.lastRegistration clash identity = some registered ∧
        ∀ s, (empty.changed clash).build identity s = registered.build s) ∧
    ¬ (∀ text identity, (text, identity) ∈ (empty.changed clash).spellings →
      (empty.changed clash).Alike text identity) := by
  have hx : (empty.changed clash).build "x" = (plain "b").build := by rfl
  have hz : (empty.changed clash).build "z" = (plain "a").build := by rfl
  have hdistinct : (plain "a").build default ≠ (plain "b").build default := by
    intro h
    have hrun := congrArg (fun action : Action Unit (Checker Unit) =>
      (action.run.run ()).1.toOption.map Checker.defaultExtensions) h
    exact absurd hrun (by decide)
  constructor
  · intro h
    obtain ⟨registered, hlast, hbuild⟩ := h "x" ["a"] (by decide)
    obtain rfl : plain "a" = registered := Option.some.inj hlast
    exact hdistinct ((hbuild default).symm.trans (congrFun hx default))
  · intro h
    rcases h "z" "x" (by decide) default with heq | ⟨hrefused, -⟩
    · rw [hz, hx] at heq
      exact hdistinct heq
    · rw [hz] at hrefused
      exact absurd (congrArg (fun action : Action Unit (Checker Unit) =>
        (action.run.run ()).1.isOk) hrefused) (by decide)

end StandardsGate.Registry
