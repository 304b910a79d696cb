import StandardsGate.Proofs.Yaml.Alone
import StandardsGate.Standards.Config

/-!
How standards are read, part by part.

A standard and a declaration are read off the entries of a mapping, field after field. Each part looks
at the entries of its own keys only, so that entries that come in addition are seen by none of them
but the one that collects what is not known.

Main definitions:

* `Config.keyedEntry`, `Config.withKey` — one entry of a mapping;
* `Config.rulesOf`, `Config.checkersOf`, `Config.standardOf` — a standard from its entries;
* `Config.identityOf`, `Config.extensionsOf`, `Config.optionsOf`, `Config.declarationOf` — a
  declaration from its entries.

Main results:

* `Config.standard_eq`, `Config.declaration_eq` — **the parts make up the whole**;
* `Config.parallel_standard`, `Config.parallel_declaration` — what is read is the same in documents
  with the same anchors.
-/

namespace StandardsGate.Config

open Yaml (Node Decoding Document Parallel)

/-! ### Entries -/

/-- An entry by the text of its key. -/
def keyedEntry (e : Node × Node) : Decoding (String × Node) := do
  return (← Yaml.text e.1, e.2)

/-- What is read of an entry, with its key. -/
def withKey {κ α : Type} (read : Node → Decoding α) (e : κ × Node) : Decoding (κ × α) := do
  return (e.1, ← read e.2)

theorem keyed_eq (entries : List (Node × Node)) : keyed entries = entries.mapM keyedEntry := rfl

theorem extras_eq (known : List String) (depth : Nat) (entries : List (String × Node)) :
    extras known depth entries = (do
      let others := entries.filter fun e => !known.contains e.1
      return .ofList (← others.mapM (withKey (Yaml.value false depth)))) := rfl

theorem named_eq {α : Type} (depth : Nat) (read : Nat → Node → Decoding α) (n : Node) :
    named depth read n = (do
      let (entries, depth) ← Yaml.mapping depth n
      return .ofList (← (← keyed entries).mapM (withKey (read depth)))) := rfl

/-! ### The parts of a declaration -/

/-- The implementation that a declaration names. -/
def identityOf (entries : List (String × Node)) : Decoding String := do
  match ← field? ["checker", "class"] entries with
  | none => throw .missingField
  | some n => Yaml.text n

/-- The extensions that a declaration gives. -/
def extensionsOf (depth : Nat) (entries : List (String × Node)) :
    Decoding (Option (List String)) := do
  match ← field? ["extensions"] entries with
  | none => return none
  | some n =>
    match ← Yaml.optional n with
    | none => return none
    | some n => return some (← Yaml.texts depth n)

/-- The options that a declaration gives. -/
def optionsOf (depth : Nat) (entries : List (String × Node)) : Decoding Options := do
  match ← field? ["options"] entries with
  | none => return ∅
  | some n => options depth n

/-- A declaration from its entries. -/
def declarationOf (depth : Nat) (entries : List (String × Node)) :
    Decoding CheckerDeclaration := do
  let identity ← identityOf entries
  let extensions ← extensionsOf depth entries
  let options ← optionsOf depth entries
  let extra ← extras declarationKeys depth entries
  return ⟨identity, extensions, options, extra⟩

/-- **A declaration is read part by part.** -/
theorem declaration_eq (depth : Nat) (n : Node) :
    declaration depth n = (do
      let (entries, depth) ← Yaml.mapping depth n
      declarationOf depth (← keyed entries)) := by
  unfold declaration declarationOf identityOf extensionsOf optionsOf
  simp only [bind_assoc]
  refine bind_congr fun p => bind_congr fun entries => bind_congr fun identity? => ?_
  rcases identity? with _ | n
  · rfl
  refine bind_congr fun identity => bind_congr fun extensions? => ?_
  rcases extensions? with _ | n
  · refine bind_congr fun extensions => bind_congr fun options? => ?_
    rcases options? with _ | n <;> rfl
  · dsimp only
    rw [bind_assoc]
    refine bind_congr fun n? => ?_
    rcases n? with _ | n
    · refine bind_congr fun extensions => bind_congr fun options? => ?_
      rcases options? with _ | n <;> rfl
    · dsimp only
      rw [bind_assoc]
      refine bind_congr fun texts => bind_congr fun extensions => bind_congr fun options? => ?_
      rcases options? with _ | n <;> rfl

/-! ### The parts of a standard -/

/-- The rules that a standard gives under a key. -/
def rulesOf (key : String) (otherwise : List String) (depth : Nat)
    (entries : List (String × Node)) : Decoding (List String) := do
  match ← field? [key] entries with
  | none => return otherwise
  | some n => Yaml.texts depth n

/-- The declarations that a standard gives. -/
def checkersOf (depth : Nat) (entries : List (String × Node)) :
    Decoding (OrderedMap String CheckerDeclaration) := do
  match ← field? ["checkers"] entries with
  | none => return ∅
  | some n =>
    match ← Yaml.optional n with
    | none => return ∅
    | some n => named depth declaration n

/-- A standard from its entries. -/
def standardOf (depth : Nat) (entries : List (String × Node)) : Decoding Standard := do
  let files ← rulesOf "files" defaultRules depth entries
  let exclude ← rulesOf "exclude" [] depth entries
  let checkers ← checkersOf depth entries
  let extra ← extras standardKeys depth entries
  return ⟨files, exclude, checkers, extra⟩

/-- **A standard is read part by part.** -/
theorem standard_eq (depth : Nat) (n : Node) :
    standard depth n = (do
      let (entries, depth) ← Yaml.mapping depth n
      standardOf depth (← keyed entries)) := by
  unfold standard standardOf rulesOf checkersOf
  simp only [bind_assoc]
  refine bind_congr fun p => bind_congr fun entries => bind_congr fun files? => ?_
  rcases files? with _ | n <;>
    refine bind_congr fun files => bind_congr fun exclude? => ?_ <;>
    rcases exclude? with _ | n <;>
    refine bind_congr fun exclude => bind_congr fun checkers? => ?_ <;>
    rcases checkers? with _ | n <;> try rfl
  all_goals
    dsimp only
    rw [bind_assoc]
    exact bind_congr fun n? => by rcases n? with _ | n <;> rfl

/-! ### Two documents with the same anchors -/

section Parallel

variable {d d' : Document} (hwithin : d.Within d')
include hwithin

theorem parallel_keyedEntry (e : Node × Node) :
    Parallel d d' (.ok ()) Eq (keyedEntry e) (keyedEntry e) := by
  refine .bind (.text hwithin e.1) ?_
  rintro key _ rfl
  exact .pure rfl

theorem parallel_keyed (entries : List (Node × Node)) :
    Parallel d d' (.ok ()) Eq (keyed entries) (keyed entries) :=
  .mapM_self fun e _ => parallel_keyedEntry hwithin e

omit hwithin in
theorem parallel_withKey {κ α : Type} {read : Node → Decoding α}
    (hread : ∀ n, Parallel d d' (.ok ()) Eq (read n) (read n)) (e : κ × Node) :
    Parallel d d' (.ok ()) Eq (withKey read e) (withKey read e) := by
  refine .bind (hread e.2) ?_
  rintro part _ rfl
  exact .pure rfl

omit hwithin in
theorem parallel_field? (keys : List String) (entries : List (String × Node)) :
    Parallel d d' (.ok ()) Eq (field? keys entries) (field? keys entries) := by
  refine .of_exists ?_
  unfold field?
  split
  · exact ⟨_, .pure _⟩
  · exact ⟨_, .pure _⟩
  · exact ⟨_, .throw _⟩

theorem parallel_extras (known : List String) (depth : Nat) (entries : List (String × Node)) :
    Parallel d d' (.ok ()) Eq (extras known depth entries) (extras known depth entries) := by
  refine .bind (.mapM_self fun e _ => parallel_withKey (.value hwithin false depth) e) ?_
  rintro others _ rfl
  exact .pure rfl

theorem parallel_options (depth : Nat) (n : Node) :
    Parallel d d' (.ok ()) Eq (options depth n) (options depth n) := by
  refine .bind (.optional hwithin n) ?_
  rintro (_ | n) _ rfl
  · exact .pure rfl
  refine .bind (.mapping hwithin depth n) ?_
  rintro ⟨entries, depth⟩ _ rfl
  refine .bind (parallel_keyed hwithin entries) ?_
  rintro entries _ rfl
  refine .bind (.mapM_self fun e _ => parallel_withKey (.value hwithin true depth) e) ?_
  rintro options _ rfl
  exact .pure rfl

theorem parallel_identityOf (entries : List (String × Node)) :
    Parallel d d' (.ok ()) Eq (identityOf entries) (identityOf entries) := by
  refine .bind (parallel_field? _ entries) ?_
  rintro (_ | n) _ rfl
  · exact .throw _
  · exact .text hwithin n

theorem parallel_extensionsOf (depth : Nat) (entries : List (String × Node)) :
    Parallel d d' (.ok ()) Eq (extensionsOf depth entries) (extensionsOf depth entries) := by
  refine .bind (parallel_field? _ entries) ?_
  rintro (_ | n) _ rfl
  · exact .pure rfl
  refine .bind (.optional hwithin n) ?_
  rintro (_ | n) _ rfl
  · exact .pure rfl
  refine .bind (.texts hwithin depth n) ?_
  rintro texts _ rfl
  exact .pure rfl

theorem parallel_optionsOf (depth : Nat) (entries : List (String × Node)) :
    Parallel d d' (.ok ()) Eq (optionsOf depth entries) (optionsOf depth entries) := by
  refine .bind (parallel_field? _ entries) ?_
  rintro (_ | n) _ rfl
  · exact .pure rfl
  · exact parallel_options hwithin depth n

/-- **A declaration is the same in both documents.** -/
theorem parallel_declaration (depth : Nat) (n : Node) :
    Parallel d d' (.ok ()) Eq (declaration depth n) (declaration depth n) := by
  rw [declaration_eq]
  refine .bind (.mapping hwithin depth n) ?_
  rintro ⟨entries, depth⟩ _ rfl
  refine .bind (parallel_keyed hwithin entries) ?_
  rintro entries _ rfl
  refine .bind (parallel_identityOf hwithin entries) ?_
  rintro identity _ rfl
  refine .bind (parallel_extensionsOf hwithin depth entries) ?_
  rintro extensions _ rfl
  refine .bind (parallel_optionsOf hwithin depth entries) ?_
  rintro options _ rfl
  refine .bind (parallel_extras hwithin _ depth entries) ?_
  rintro extra _ rfl
  exact .pure rfl

theorem parallel_rulesOf (key : String) (otherwise : List String) (depth : Nat)
    (entries : List (String × Node)) :
    Parallel d d' (.ok ()) Eq (rulesOf key otherwise depth entries)
      (rulesOf key otherwise depth entries) := by
  refine .bind (parallel_field? _ entries) ?_
  rintro (_ | n) _ rfl
  · exact .pure rfl
  · exact .texts hwithin depth n

/-- Named parts are the same in both documents if each of them is. -/
theorem parallel_named {α : Type} {read : Nat → Node → Decoding α}
    (hread : ∀ depth n, Parallel d d' (.ok ()) Eq (read depth n) (read depth n)) (depth : Nat)
    (n : Node) : Parallel d d' (.ok ()) Eq (named depth read n) (named depth read n) := by
  refine .bind (.mapping hwithin depth n) ?_
  rintro ⟨entries, depth⟩ _ rfl
  refine .bind (parallel_keyed hwithin entries) ?_
  rintro entries _ rfl
  refine .bind (.mapM_self fun e _ => parallel_withKey (hread depth) e) ?_
  rintro parts _ rfl
  exact .pure rfl

theorem parallel_checkersOf (depth : Nat) (entries : List (String × Node)) :
    Parallel d d' (.ok ()) Eq (checkersOf depth entries) (checkersOf depth entries) := by
  refine .bind (parallel_field? _ entries) ?_
  rintro (_ | n) _ rfl
  · exact .pure rfl
  refine .bind (.optional hwithin n) ?_
  rintro (_ | n) _ rfl
  · exact .pure rfl
  · exact parallel_named hwithin (parallel_declaration hwithin) depth n

/-- **A standard is the same in both documents.** -/
theorem parallel_standard (depth : Nat) (n : Node) :
    Parallel d d' (.ok ()) Eq (standard depth n) (standard depth n) := by
  rw [standard_eq]
  refine .bind (.mapping hwithin depth n) ?_
  rintro ⟨entries, depth⟩ _ rfl
  refine .bind (parallel_keyed hwithin entries) ?_
  rintro entries _ rfl
  refine .bind (parallel_rulesOf hwithin _ _ depth entries) ?_
  rintro files _ rfl
  refine .bind (parallel_rulesOf hwithin _ _ depth entries) ?_
  rintro exclude _ rfl
  refine .bind (parallel_checkersOf hwithin depth entries) ?_
  rintro checkers _ rfl
  refine .bind (parallel_extras hwithin _ depth entries) ?_
  rintro extra _ rfl
  exact .pure rfl

end Parallel

end StandardsGate.Config
