import StandardsGate.Proofs.Glob.Literals
import StandardsGate.Proofs.Standards.Partition
import StandardsGate.Proofs.Standards.Validation

/-!
Rules that name directories.

A rule that ends in a slash, or in a backslash, names a directory. As long as no character of the name
has a meaning in patterns it can always be compiled, and it matches the paths that go on behind the
name and a slash: everything in the directory, at any depth, and nothing in a directory whose name
only begins like it, or in one of the same name elsewhere. Blank rules in between match nothing.

Main definitions:

* `Rules.NamesDirectory` — the rules that name a directory.

Main results:

* `Rules.NamesDirectory.matches_iff` — what a single rule matches;
* `Rules.compile_directories` — **what rules of directories match**.
-/

namespace StandardsGate

theorem Path.isLiteralText_slashed {d : List Char} (h : ∀ c ∈ d, c ∉ Glob.metacharacters) :
    Glob.IsLiteralText (Path.slashed d) := by
  intro c hc
  obtain ⟨b, hb, rfl⟩ := List.mem_map.1 hc
  split
  · decide
  · rename_i hne
    exact ⟨h b hb, hne⟩

namespace Rules

/-- Whether a rule names a directory: it is a path without metacharacters and without a blank in
front, and a slash or a backslash behind it. -/
structure NamesDirectory (rule : String) (d : List Char) : Prop where
  text : rule.toList = d ++ ['/'] ∨ rule.toList = d ++ ['\\']
  plain : ∀ c ∈ d, c ∉ Glob.metacharacters
  head : ∀ c ∈ d.head?, Text.isBlank c = false

namespace NamesDirectory

variable {rule : String} {d : List Char}

/-- The rule ends in a character that is no blank and stands for a slash. -/
theorem exists_last (h : NamesDirectory rule d) :
    ∃ last, rule.toList = d ++ [last] ∧ Text.isBlank last = false ∧ Path.slashed [last] = ['/'] := by
  rcases h.text with htext | htext
  · exact ⟨'/', htext, by decide, by decide⟩
  · exact ⟨'\\', htext, by decide, by decide⟩

/-- A rule names one directory only. -/
theorem eq_dropLast (h : NamesDirectory rule d) : d = rule.toList.dropLast := by
  obtain ⟨last, htext, -, -⟩ := h.exists_last
  rw [htext, List.dropLast_concat]

theorem not_isAllBlank (h : NamesDirectory rule d) : ¬ Text.isAllBlank rule = true := by
  obtain ⟨last, htext, hlast, -⟩ := h.exists_last
  rw [Text.isAllBlank, htext, List.all_append]
  simp [hlast]

/-- The glob pattern of the rule: the name with slashes, and everything below. -/
theorem globText (h : NamesDirectory rule d) :
    globText rule = String.ofList (Path.slashed d ++ ['/', '*', '*']) := by
  obtain ⟨last, htext, hlast, hslash⟩ := h.exists_last
  have hhead : ∀ c ∈ (d ++ [last]).head?, Text.isBlank c = false := by
    intro c hc
    cases d with
    | nil =>
        obtain rfl : last = c := Option.some.inj hc
        exact hlast
    | cons b d => exact h.head c hc
  have htrimmed : Text.trimChars (d ++ [last]) = d ++ [last] :=
    Text.trimChars_eq_self_iff.2 ⟨hhead, by simpa using hlast⟩
  have hslashed : Path.slashed (d ++ [last]) = Path.slashed d ++ ['/'] := by
    rw [← hslash]
    exact List.map_append
  unfold Rules.globText
  dsimp only
  rw [htext, htrimmed, hslashed, if_pos (List.getLast?_concat ..)]
  simp

theorem parse (h : NamesDirectory rule d) :
    Glob.parse (Rules.globText rule) =
      .ok ⟨(Path.slashed d).map Glob.Part.literal ++ [.subtree]⟩ := by
  rw [h.globText]
  exact Glob.parse_below (Path.isLiteralText_slashed h.plain)

/-- **What a rule of a directory matches.** -/
theorem matches_iff (h : NamesDirectory rule d) (path : String) :
    Rules.Matches rule path ↔ Path.slashed d ++ ['/'] <+: path.toList := by
  have hpattern : pattern? rule = some (Rules.globText rule) := by
    rw [pattern?_eq, if_neg h.not_isAllBlank]
  rw [← Glob.isMatch_below_iff path]
  constructor
  · rintro ⟨p, g, hp, hg, hmatch⟩
    obtain rfl := Option.some.inj (hpattern.symm.trans hp)
    obtain rfl := Except.ok.inj (h.parse.symm.trans hg)
    exact hmatch
  · exact fun hmatch => ⟨_, _, hpattern, h.parse, hmatch⟩

end NamesDirectory

theorem not_matches_of_isAllBlank {rule : String} (h : Text.isAllBlank rule = true)
    (path : String) : ¬ Rules.Matches rule path := by
  rintro ⟨p, g, hp, -⟩
  rw [pattern?_eq, if_pos h] at hp
  cases hp

/-- **What rules of directories match.** Rules each of which is blank or names a directory can be
compiled, and a path matches them exactly if it begins with the name of one of these directories,
with slashes, and a slash behind it. -/
theorem compile_directories {rules : List String}
    (h : ∀ rule ∈ rules, Text.isAllBlank rule = true ∨ ∃ d, NamesDirectory rule d) :
    ∃ compiled, compile rules = .ok compiled ∧
      ∀ path : String, compiled.isMatch path = true ↔
        ∃ rule ∈ rules, ∃ d, NamesDirectory rule d ∧ Path.slashed d ++ ['/'] <+: path.toList := by
  have husable : ∀ rule ∈ rules, IsUsable rule := by
    intro rule hrule
    rcases h rule hrule with hblank | ⟨d, hd⟩
    · exact Or.inl hblank
    · exact Or.inr ⟨_, hd.parse⟩
  obtain ⟨compiled, hcompiled⟩ := exists_compile_iff.2 husable
  refine ⟨compiled, hcompiled, fun path => ?_⟩
  rw [isMatch_iff_of_compile hcompiled]
  constructor
  · rintro ⟨rule, hrule, hmatch⟩
    rcases h rule hrule with hblank | ⟨d, hd⟩
    · exact absurd hmatch (not_matches_of_isAllBlank hblank path)
    · exact ⟨rule, hrule, d, hd, (hd.matches_iff path).1 hmatch⟩
  · rintro ⟨rule, hrule, d, hd, hprefix⟩
    exact ⟨rule, hrule, (hd.matches_iff path).2 hprefix⟩

/-- A directory, a blank rule, and a directory inside another one. -/
def directoryRules : List String := ["web/", " \t", "lib\\web\\"]

theorem namesDirectory_web : NamesDirectory "web/" ['w', 'e', 'b'] where
  text := .inl rfl
  plain := by simp [Glob.metacharacters]
  head := by simp [Text.isBlank]

theorem namesDirectory_lib : NamesDirectory "lib\\web\\" ['l', 'i', 'b', '\\', 'w', 'e', 'b'] where
  text := .inr rfl
  plain := by simp [Glob.metacharacters]
  head := by simp [Text.isBlank]

theorem directoryRules_evaluated :
    Text.isAllBlank " \t" = true ∧
      (directoryRules.all fun rule =>
        !(Path.slashed rule.toList.dropLast ++ ['/']).isPrefixOf "web2/a.js".toList &&
          !(Path.slashed rule.toList.dropLast ++ ['/']).isPrefixOf "sub/web/a.js".toList) = true := by
  decide +kernel

/-- Files of the directories are matched at any depth, others of similar names are not. -/
theorem compile_directories_web :
    (∀ rule ∈ directoryRules, Text.isAllBlank rule = true ∨ ∃ d, NamesDirectory rule d) ∧
      ∃ compiled, compile directoryRules = .ok compiled ∧
        compiled.isMatch "web/a/b.js" = true ∧ compiled.isMatch "lib/web/a.js" = true ∧
        compiled.isMatch "web2/a.js" = false ∧ compiled.isMatch "sub/web/a.js" = false := by
  obtain ⟨hblank, hothers⟩ := directoryRules_evaluated
  have hrules : ∀ rule ∈ directoryRules,
      Text.isAllBlank rule = true ∨ ∃ d, NamesDirectory rule d := by
    intro rule hrule
    simp only [directoryRules, List.mem_cons, List.not_mem_nil, or_false] at hrule
    rcases hrule with rfl | rfl | rfl
    · exact Or.inr ⟨_, namesDirectory_web⟩
    · exact Or.inl hblank
    · exact Or.inr ⟨_, namesDirectory_lib⟩
  obtain ⟨compiled, hcompiled, hmatch⟩ := compile_directories hrules
  refine ⟨hrules, compiled, hcompiled, ?_, ?_, ?_, ?_⟩
  · exact (hmatch _).2 ⟨_, by simp [directoryRules], _, namesDirectory_web, ⟨"a/b.js".toList, rfl⟩⟩
  · exact (hmatch _).2 ⟨_, by simp [directoryRules], _, namesDirectory_lib, ⟨"a.js".toList, rfl⟩⟩
  all_goals
    rw [← Bool.not_eq_true, hmatch]
    rintro ⟨rule, hrule, d, hd, hprefix⟩
    have hother := List.all_eq_true.1 hothers rule hrule
    rw [← hd.eq_dropLast, Bool.and_eq_true, Bool.not_eq_true', Bool.not_eq_true'] at hother
  · exact Bool.false_ne_true (hother.1.symm.trans (List.isPrefixOf_iff_prefix.2 hprefix))
  · exact Bool.false_ne_true (hother.2.symm.trans (List.isPrefixOf_iff_prefix.2 hprefix))

end Rules

end StandardsGate
