import StandardsGate.Proofs.Diff.Collection
import StandardsGate.Proofs.Standards.Grouping
import Mathlib.Data.List.Nodup

/-!
Groups as a partition.

A file belongs to the first declared standard that has a rule which matches its name and no rule
against it, and to no other one. The groups are therefore disjoint, they stand in the order of
declaration, and what is left over is what no standard matches. They are also what comes of going
through the files once and putting each of them to the group of its standard.

Main definitions:

* `Rules.Matches`, `Standard.Matches` — when a rule, and when a standard matches a path;
* `Config.IsFirst` — whether a standard is the first one that matches a path;
* `Assignment.collected` — the groups, collected file by file.

Main results:

* `Rules.isMatch_iff_of_compile` — compiled rules match what one of the rules matches;
* `Assignment.groups_eq_collected` — **the groups are collected in one pass**;
* `Assignment.groups_partition` — **grouping is a partition by the first match**.
-/

namespace StandardsGate

/-! ### When a standard matches -/

/-- Whether the pattern of a rule matches a path. A blank rule has no pattern. -/
def Rules.Matches (rule path : String) : Prop :=
  ∃ pattern g, Rules.pattern? rule = some pattern ∧ Glob.parse pattern = .ok g ∧
    g.isMatch (Utf8.encode path) = true

/-- Whether a standard has a rule that matches a path, and none against it that does. -/
def Standard.Matches (s : Standard) (path : String) : Prop :=
  (∃ rule ∈ s.files, Rules.Matches rule path) ∧ ∀ rule ∈ s.exclude, ¬ Rules.Matches rule path

/-- Compiled patterns come from the patterns one by one. -/
theorem Rules.forall₂_of_compilePatterns {ps : List String} {gs : List Glob}
    (h : compilePatterns ps = .ok gs) : List.Forall₂ (fun p g => Glob.parse p = .ok g) ps gs := by
  induction ps generalizing gs with
  | nil =>
      obtain rfl : [] = gs := Except.ok.inj h
      exact .nil
  | cons p ps ih =>
      unfold compilePatterns at h
      cases hp : Glob.parse p with
      | error fault =>
          rw [hp] at h
          cases h
      | ok g =>
          rw [hp] at h
          cases hps : compilePatterns ps with
          | error fault =>
              rw [hps] at h
              cases h
          | ok later =>
              rw [hps] at h
              obtain rfl : g :: later = gs := Except.ok.inj h
              exact .cons hp (ih hps)

theorem Rules.exists_isMatch_iff {ps : List String} {gs : List Glob}
    (h : List.Forall₂ (fun p g => Glob.parse p = .ok g) ps gs) {bytes : Bytes} :
    (∃ g ∈ gs, g.isMatch bytes = true) ↔
      ∃ p ∈ ps, ∃ g, Glob.parse p = .ok g ∧ g.isMatch bytes = true := by
  induction h with
  | nil => simp
  | @cons p g ps gs hp _ ih =>
      simp only [List.mem_cons, exists_eq_or_imp, ih]
      simp [hp]

/-- **Compiled rules match what one of the rules matches.** -/
theorem Rules.isMatch_iff_of_compile {rules : List String} {compiled : RuleSet}
    (h : Rules.compile rules = .ok compiled) (path : String) :
    compiled.isMatch path = true ↔ ∃ rule ∈ rules, Rules.Matches rule path := by
  obtain ⟨gs, hgs, rfl⟩ : ∃ gs, compilePatterns (rules.filterMap pattern?) = .ok gs ∧
      RuleSet.mk gs = compiled := by
    unfold Rules.compile at h
    cases hgs : compilePatterns (rules.filterMap pattern?) with
    | error fault =>
        rw [hgs] at h
        cases h
    | ok gs =>
        rw [hgs] at h
        exact ⟨gs, rfl, Except.ok.inj h⟩
  change gs.any _ = true ↔ _
  rw [List.any_eq_true, exists_isMatch_iff (forall₂_of_compilePatterns hgs)]
  constructor
  · rintro ⟨p, hp, g, hg, hmatch⟩
    obtain ⟨rule, hrule, hpattern⟩ := List.mem_filterMap.1 hp
    exact ⟨rule, hrule, p, g, hpattern, hg, hmatch⟩
  · rintro ⟨rule, hrule, p, g, hpattern, hg, hmatch⟩
    exact ⟨p, List.mem_filterMap.2 ⟨rule, hrule, hpattern⟩, g, hg, hmatch⟩

theorem Rules.cover_iff {rules : List String} (h : ∃ compiled, Rules.compile rules = .ok compiled)
    (path : String) : Rules.cover rules path = true ↔ ∃ rule ∈ rules, Rules.Matches rule path := by
  obtain ⟨compiled, hcompiled⟩ := h
  rw [← Rules.isMatch_iff_of_compile hcompiled, Rules.cover, hcompiled]

theorem Standard.covers_iff {s : Standard} (h : s.Compiles) (path : String) :
    s.covers path = true ↔ s.Matches path := by
  rw [Standard.covers, Bool.and_eq_true, Bool.not_eq_true', Rules.cover_iff h.files,
    ← Bool.not_eq_true, Rules.cover_iff h.exclude]
  simp [Standard.Matches]

namespace Config

/-! ### The first match -/

/-- Whether a standard is the first declared one that matches a path. -/
def IsFirst (c : Config) (standard path : String) : Prop :=
  ∃ before s after, c.standards.entries = before ++ (standard, s) :: after ∧ s.Matches path ∧
    ∀ e ∈ before, ¬ e.2.Matches path

variable {c : Config} (h : ∀ e ∈ c.standards.entries, e.2.Compiles)

include h

theorem standardOf?_eq_some_iff (standard path : String) :
    c.standardOf? path = some standard ↔ c.IsFirst standard path := by
  unfold standardOf? IsFirst
  simp only [Option.map_eq_some_iff, List.find?_eq_some_iff_append]
  constructor
  · rintro ⟨e, ⟨hcovers, before, after, hentries, hbefore⟩, rfl⟩
    have hmem : ∀ e' ∈ before ++ e :: after, e'.2.Compiles := hentries ▸ h
    refine ⟨before, e.2, after, hentries, (Standard.covers_iff (hmem e (by simp)) path).1 hcovers,
      fun e' he' hmatches => ?_⟩
    have hcovers' := (Standard.covers_iff (hmem e' (by simp [he'])) path).2 hmatches
    simpa [hcovers'] using hbefore e' he'
  · rintro ⟨before, s, after, hentries, hmatches, hbefore⟩
    have hmem : ∀ e' ∈ before ++ (standard, s) :: after, e'.2.Compiles := hentries ▸ h
    refine ⟨(standard, s),
      ⟨(Standard.covers_iff (hmem (standard, s) (by simp)) path).2 hmatches, before, after,
        hentries, fun e' he' => ?_⟩, rfl⟩
    have hnot := mt (Standard.covers_iff (hmem e' (by simp [he'])) path).1 (hbefore e' he')
    simpa using hnot

theorem standardOf?_eq_none_iff (path : String) :
    c.standardOf? path = none ↔ ∀ e ∈ c.standards.entries, ¬ e.2.Matches path := by
  unfold standardOf?
  rw [Option.map_eq_none_iff, List.find?_eq_none]
  exact forall₂_congr fun e he => not_congr (Standard.covers_iff (h e he) path)

omit h in
/-- The standard of a path is declared. -/
theorem mem_keys_of_standardOf? {standard path : String} (hs : c.standardOf? path = some standard) :
    standard ∈ c.standards.keys := by
  obtain ⟨e, he, rfl⟩ := Option.map_eq_some_iff.1 hs
  exact List.mem_map_of_mem (List.mem_of_find?_eq_some he)

end Config

namespace Assignment

/-! ### Configurations whose files can be assigned -/

theorem compiles_of_compileRules {standard : String} {kind : RuleKind} {rules : List String}
    {compiled : RuleSet} (h : compileRules standard kind rules = .ok compiled) :
    ∃ compiled, Rules.compile rules = .ok compiled := by
  unfold compileRules at h
  cases hrules : Rules.compile rules with
  | error fault =>
      rw [hrules] at h
      cases h
  | ok compiled => exact ⟨compiled, rfl⟩

theorem compiles_of_matcher {name : String} {s : Standard} {m : Matcher}
    (h : matcher name s = .ok m) : s.Compiles := by
  obtain ⟨inclusion, hinclusion, h⟩ := exists_of_bind_eq_ok h
  obtain ⟨exclusion, hexclusion, -⟩ := exists_of_bind_eq_ok h
  exact ⟨compiles_of_compileRules hinclusion, compiles_of_compileRules hexclusion⟩

/-- If files can be assigned, all rules compile, and the matchers are those of the standards. -/
theorem compiled_of_ofConfig {c : Config} {a : Assignment} (h : ofConfig c = .ok a) :
    (∀ e ∈ c.standards.entries, e.2.Compiles) ∧
      List.Forall₂ Compiled c.standards.entries a.matchers := by
  have hcompiles : ∀ e ∈ c.standards.entries, e.2.Compiles := by
    unfold ofConfig at h
    cases hms : c.standards.entries.mapM fun e => matcher e.1 e.2 with
    | error fault =>
        rw [hms] at h
        cases h
    | ok ms =>
        clear h
        generalize c.standards.entries = es at hms
        induction es generalizing ms with
        | nil => simp
        | cons e es ih =>
            rw [List.mapM_cons] at hms
            obtain ⟨m, hm, hms⟩ := exists_of_bind_eq_ok hms
            obtain ⟨later, hlater, -⟩ := exists_of_bind_eq_ok hms
            rw [List.forall_mem_cons]
            exact ⟨compiles_of_matcher hm, ih later hlater⟩
  obtain ⟨a', ha', hall⟩ := exists_ofConfig hcompiles
  obtain rfl : a' = a := Except.ok.inj (ha'.symm.trans h)
  exact ⟨hcompiles, hall⟩

theorem map_standard_matchers {c : Config} {a : Assignment}
    (h : List.Forall₂ Compiled c.standards.entries a.matchers) :
    a.matchers.map Matcher.standard = c.standards.keys := by
  unfold OrderedMap.keys
  generalize c.standards.entries = es at h
  generalize a.matchers = ms at h
  induction h with
  | nil => rfl
  | cons hcompiled _ ih => rw [List.map_cons, List.map_cons, ih, hcompiled.standard]

/-! ### Groups in one pass -/

/-- Puts a file to the group of its standard, if it has one. -/
def collect (a : Assignment) (groups : OrderedMap String (List EditedFile)) (f : EditedFile) :
    OrderedMap String (List EditedFile) :=
  match a.matchers.find? (·.covers f.name) with
  | none => groups
  | some m =>
    match groups.get? m.standard with
    | none => groups
    | some fs => groups.insert m.standard (fs ++ [f])

/-- The groups, collected file by file: there is an empty one for each standard to begin with, and
those that are still empty at the end are dropped. -/
def collected (a : Assignment) (files : List EditedFile) : List Group :=
  let start : OrderedMap String (List EditedFile) :=
    .ofList (a.matchers.map fun m => (m.standard, []))
  ((files.foldl a.collect start).entries.filter fun e => !e.2.isEmpty).map fun e => ⟨e.1, e.2⟩

/-- What is kept while groups are collected: every standard has an entry, in the order of
declaration, with those files of a list that belong to it. -/
structure Holds (a : Assignment) (groups : OrderedMap String (List EditedFile))
    (front : List EditedFile) : Prop where
  keys : groups.keys = a.matchers.map Matcher.standard
  get? : ∀ standard ∈ a.matchers.map Matcher.standard,
    groups.get? standard = some (front.filter fun f => a.standardOf? f.name = some standard)

variable {a : Assignment}

/-- Collecting begins with an empty group for each standard. -/
theorem holds_start (hdistinct : (a.matchers.map Matcher.standard).Nodup) :
    a.Holds (.ofList (a.matchers.map fun m => (m.standard, []))) [] := by
  have hkeys : (a.matchers.map fun m => (m.standard, ([] : List EditedFile))).map Prod.fst =
      a.matchers.map Matcher.standard := by
    rw [List.map_map]
    rfl
  have hentries : (OrderedMap.ofList (a.matchers.map fun m =>
      (m.standard, ([] : List EditedFile)))).entries =
        a.matchers.map fun m => (m.standard, []) := by
    refine OrderedMap.entries_insertAll_of_nodup (m := OrderedMap.empty) ?_
    rw [hkeys]
    exact hdistinct
  constructor
  · rw [OrderedMap.keys, hentries, hkeys]
  · intro standard hmem
    obtain ⟨m, hm, rfl⟩ := List.mem_map.1 hmem
    rw [OrderedMap.get?, OrderedMap.lookup_eq_some_iff_mem (OrderedMap.distinct _), hentries]
    exact List.mem_map.2 ⟨m, hm, rfl⟩

/-- One more file goes to the group of its standard. -/
theorem Holds.collect {groups : OrderedMap String (List EditedFile)} {front : List EditedFile}
    (h : a.Holds groups front) (f : EditedFile) : a.Holds (a.collect groups f) (front ++ [f]) := by
  unfold Assignment.collect
  cases hm : a.matchers.find? (·.covers f.name) with
  | none =>
      -- a file that no standard covers changes nothing
      have hnone : a.standardOf? f.name = none := by simp [standardOf?, hm]
      refine ⟨h.keys, fun standard hmem => ?_⟩
      rw [h.get? standard hmem]
      simp [hnone]
  | some m =>
      have hsome : a.standardOf? f.name = some m.standard := by simp [standardOf?, hm]
      have hown : m.standard ∈ a.matchers.map Matcher.standard :=
        List.mem_map_of_mem (List.mem_of_find?_eq_some hm)
      simp only [h.get? m.standard hown]
      constructor
      · rw [OrderedMap.keys_insert, h.keys, if_pos hown]
      · intro standard hmem
        rw [OrderedMap.get?_insert]
        by_cases heq : standard = m.standard
        · subst heq
          simp [hsome]
        · rw [if_neg heq, h.get? standard hmem]
          simp [hsome, Ne.symm heq]

/-- After all files every group holds the files of its standard. -/
theorem Holds.foldl_collect {groups : OrderedMap String (List EditedFile)}
    {front : List EditedFile} (h : a.Holds groups front) (files : List EditedFile) :
    a.Holds (files.foldl a.collect groups) (front ++ files) := by
  induction files generalizing groups front with
  | nil => simpa using h
  | cons f files ih => simpa using ih (h.collect f)

/-- What is kept determines the collected groups. -/
theorem Holds.entries {groups : OrderedMap String (List EditedFile)} {files : List EditedFile}
    (h : a.Holds groups files) (hdistinct : (a.matchers.map Matcher.standard).Nodup) :
    groups.entries = a.matchers.map fun m =>
      (m.standard, files.filter fun f => a.standardOf? f.name = some m.standard) := by
  have hkeys : (a.matchers.map fun m => (m.standard,
      files.filter fun f => a.standardOf? f.name = some m.standard)).map Prod.fst =
        a.matchers.map Matcher.standard := by
    rw [List.map_map]
    rfl
  refine OrderedMap.entries_ext groups.distinct (h.keys.trans hkeys.symm) fun standard => ?_
  by_cases hmem : standard ∈ a.matchers.map Matcher.standard
  · have hget : groups.entries.lookup standard = _ := h.get? standard hmem
    obtain ⟨m, hm, rfl⟩ := List.mem_map.1 hmem
    rw [hget, eq_comm, OrderedMap.lookup_eq_some_iff_mem (hkeys ▸ hdistinct)]
    exact List.mem_map.2 ⟨m, hm, rfl⟩
  · have hnot : standard ∉ groups.entries.map Prod.fst := by
      intro hin
      exact hmem (h.keys ▸ hin)
    rw [OrderedMap.lookup_eq_none_of_not_mem hnot,
      OrderedMap.lookup_eq_none_of_not_mem (by rwa [hkeys])]

/-- **The groups are collected in one pass.** -/
theorem groups_eq_collected (hdistinct : (a.matchers.map Matcher.standard).Nodup)
    (files : List EditedFile) : a.groups files = a.collected files := by
  have hentries := ((holds_start hdistinct).foldl_collect files).entries hdistinct
  simp only [List.nil_append] at hentries
  simp only [collected, hentries, groups, List.filter_map, List.map_map]
  rfl

/-! ### Groups as a partition -/

/-- Whether groups are a partition of files by the first standard that matches. -/
structure IsPartition (c : Config) (files : EditedFiles) (gs : List Group) : Prop where
  /-- A file is in the group of the first standard that matches it, and in no other one. -/
  mem_iff : ∀ f standard, (∃ g ∈ gs, g.standard = standard ∧ f ∈ g.files) ↔
    f ∈ files.toList ∧ c.IsFirst standard f.name
  /-- No file is in the groups twice. -/
  nodup : ((gs.flatMap Group.files).map EditedFile.name).Nodup
  /-- The files in no group are those that no standard matches. -/
  leftover : ∀ f ∈ files.toList,
    (∀ g ∈ gs, f ∉ g.files) ↔ ∀ e ∈ c.standards.entries, ¬ e.2.Matches f.name
  /-- The groups stand in the order of declaration. -/
  declared : (gs.map Group.standard).Sublist c.standards.keys
  nonempty : ∀ g ∈ gs, g.files ≠ []
  /-- The files of a group stand in the order in which they came. -/
  ordered : ∀ g ∈ gs, g.files.Sublist files.toList

variable {c : Config}

theorem mem_groups_iff (h : List.Forall₂ Compiled c.standards.entries a.matchers)
    (files : List EditedFile) (g : Group) :
    g ∈ a.groups files ↔
      g.standard ∈ c.standards.keys ∧ g.files = c.filesOf files g.standard ∧ g.files ≠ [] := by
  rw [groups_eq h, List.mem_filter, List.mem_map]
  constructor
  · rintro ⟨⟨e, he, rfl⟩, hne⟩
    exact ⟨List.mem_map_of_mem he, rfl, by simpa using hne⟩
  · rintro ⟨hkey, hfiles, hne⟩
    obtain ⟨e, he, hstandard⟩ := List.mem_map.1 hkey
    refine ⟨⟨e, he, ?_⟩, by simpa using hne⟩
    cases g
    simp_all

theorem sublist_map_standard_groups (h : List.Forall₂ Compiled c.standards.entries a.matchers)
    (files : List EditedFile) : ((a.groups files).map Group.standard).Sublist c.standards.keys := by
  have hall : ((c.standards.entries.map fun e => (⟨e.1, c.filesOf files e.1⟩ : Group)).map
      Group.standard) = c.standards.keys := by
    rw [List.map_map]
    rfl
  rw [groups_eq h, ← hall]
  exact List.filter_sublist.map _

theorem mem_filesOf {files : List EditedFile} {standard : String} {f : EditedFile} :
    f ∈ c.filesOf files standard ↔ f ∈ files ∧ c.standardOf? f.name = some standard := by
  simp [Config.filesOf]

/-- A file is in the group of its standard. -/
theorem exists_mem_groups_iff (h : List.Forall₂ Compiled c.standards.entries a.matchers)
    (files : List EditedFile) (f : EditedFile) (standard : String) :
    (∃ g ∈ a.groups files, g.standard = standard ∧ f ∈ g.files) ↔
      f ∈ files ∧ c.standardOf? f.name = some standard := by
  rw [← mem_filesOf]
  constructor
  · rintro ⟨g, hg, rfl, hf⟩
    obtain ⟨-, hfiles, -⟩ := (mem_groups_iff h files g).1 hg
    exact hfiles ▸ hf
  · intro hf
    refine ⟨⟨standard, c.filesOf files standard⟩, (mem_groups_iff h files _).2 ⟨?_, rfl, ?_⟩,
      rfl, hf⟩
    · exact Config.mem_keys_of_standardOf? (mem_filesOf.1 hf).2
    · exact List.ne_nil_of_mem hf

/-- Files of distinct names are in the groups once. -/
theorem nodup_names_groups (h : List.Forall₂ Compiled c.standards.entries a.matchers)
    {files : List EditedFile} (hfiles : (files.map EditedFile.name).Nodup) :
    (((a.groups files).flatMap Group.files).map EditedFile.name).Nodup := by
  have hown : ∀ g ∈ a.groups files, ∀ name ∈ g.files.map EditedFile.name,
      c.standardOf? name = some g.standard := by
    intro g hg name hname
    obtain ⟨f, hf, rfl⟩ := List.mem_map.1 hname
    obtain ⟨-, hgfiles, -⟩ := (mem_groups_iff h files g).1 hg
    exact (mem_filesOf.1 (hgfiles ▸ hf)).2
  have hdistinct : (a.groups files).Pairwise fun g g' => g.standard ≠ g'.standard := by
    rw [← List.pairwise_map]
    exact (sublist_map_standard_groups h files).nodup c.standards.distinct
  rw [List.map_flatMap, List.nodup_flatMap]
  refine ⟨fun g hg => ?_, hdistinct.imp_of_mem fun {g g'} hg hg' hne name hname hname' => ?_⟩
  · obtain ⟨-, hgfiles, -⟩ := (mem_groups_iff h files g).1 hg
    rw [hgfiles]
    exact (List.filter_sublist.map _).nodup hfiles
  · -- a name has one standard, so it cannot be in two groups
    exact hne (Option.some.inj ((hown g hg name hname).symm.trans (hown g' hg' name hname')))

/-- **Grouping is a partition by the first match.** If the rules of a configuration can be compiled,
each file is in the group of the first declared standard that has a rule which matches its name and
none against it. The groups are those of the standards with files, in the order of declaration, and
they are what going through the files once comes to. -/
theorem groups_partition {c : Config} {a : Assignment} (h : ofConfig c = .ok a)
    (files : EditedFiles) :
    IsPartition c files (a.groups files.toList) ∧
      a.groups files.toList = a.collected files.toList := by
  obtain ⟨hcompiles, hall⟩ := compiled_of_ofConfig h
  have hmem : ∀ f standard, (∃ g ∈ a.groups files.toList, g.standard = standard ∧ f ∈ g.files) ↔
      f ∈ files.toList ∧ c.IsFirst standard f.name := by
    intro f standard
    rw [exists_mem_groups_iff hall, Config.standardOf?_eq_some_iff hcompiles]
  have hleftover : ∀ f ∈ files.toList, (∀ g ∈ a.groups files.toList, f ∉ g.files) ↔
      ∀ e ∈ c.standards.entries, ¬ e.2.Matches f.name := by
    intro f hf
    rw [← Config.standardOf?_eq_none_iff hcompiles, Option.eq_none_iff_forall_ne_some]
    constructor
    · intro hno standard hsome
      obtain ⟨g, hg, -, hfg⟩ := (exists_mem_groups_iff hall _ f standard).2 ⟨hf, hsome⟩
      exact hno g hg hfg
    · intro hnone g hg hfg
      exact hnone g.standard ((exists_mem_groups_iff hall _ f _).1 ⟨g, hg, rfl, hfg⟩).2
  have hnames : (files.toList.map EditedFile.name).Nodup := by
    rw [EditedFiles.names_toList]
    exact files.byName.distinct
  refine ⟨⟨hmem, nodup_names_groups hall hnames, hleftover, sublist_map_standard_groups hall _,
    fun g hg => ((mem_groups_iff hall _ g).1 hg).2.2, fun g hg => ?_⟩, ?_⟩
  · rw [((mem_groups_iff hall _ g).1 hg).2.1]
    exact List.filter_sublist
  · refine groups_eq_collected ?_ _
    rw [map_standard_matchers hall]
    exact c.standards.distinct

/-! ### Groups of some files -/

/-- A standard without checkers. -/
def plainStandard (files exclude : List String) : Standard := ⟨files, exclude, ∅, ∅⟩

/-- Standards of which the first one leaves a directory to the second one, and the last one gets
nothing. -/
def vendorConfig : Config where
  standards := .ofList [("app", plainStandard ["**/*.js"] ["vendor/"]),
    ("vendored", plainStandard ["vendor\\", " "] []), ("rest", plainStandard ["*.py", "src/"] [])]

def vendorAssignment : Assignment := (ofConfig vendorConfig).toOption.getD default

def vendorFiles : EditedFiles :=
  (∅ : EditedFiles).pushAll [.new "src/a.js", .new "vendor/lib.js", .new "README.md", .new "b.js"]

theorem vendor_evaluated :
    (ofConfig vendorConfig).isOk = true ∧
      (vendorAssignment.groups vendorFiles.toList).map
          (fun g => (g.standard, g.files.map EditedFile.name)) =
        [("app", ["src/a.js", "b.js"]), ("vendored", ["vendor/lib.js"])] := by
  decide +kernel

theorem groups_partition_vendor :
    ofConfig vendorConfig = .ok vendorAssignment ∧
      IsPartition vendorConfig vendorFiles (vendorAssignment.groups vendorFiles.toList) ∧
      vendorAssignment.groups vendorFiles.toList = vendorAssignment.collected vendorFiles.toList ∧
      (vendorAssignment.groups vendorFiles.toList).map
          (fun g => (g.standard, g.files.map EditedFile.name)) =
        [("app", ["src/a.js", "b.js"]), ("vendored", ["vendor/lib.js"])] := by
  obtain ⟨hok, hgroups⟩ := vendor_evaluated
  have hconfig : ofConfig vendorConfig = .ok vendorAssignment := by
    rw [vendorAssignment]
    exact eq_ok_getD hok
  obtain ⟨hpartition, hcollected⟩ := groups_partition hconfig vendorFiles
  exact ⟨hconfig, hpartition, hcollected, hgroups⟩

end Assignment

end StandardsGate
