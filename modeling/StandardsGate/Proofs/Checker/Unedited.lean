import StandardsGate.Proofs.Checker.Builtin
import StandardsGate.Proofs.Lint.Correlation
import StandardsGate.Proofs.Regex.Word
import StandardsGate.Proofs.Run.Composition
import StandardsGate.Proofs.Run.Inquiry

/-!
Files without added lines.

A file from which lines were only removed has nothing to be blamed for. No report of a linter
changes this, since messages are kept only if they are about an added line. The checker for
forbidden words searches a text that is empty. There is one thing that can be found in it: the empty
text, by a pattern that comes to its end without taking a character.

Main definitions:

* `EditedFile.IsUnedited` — a file without added lines;
* `Regex.AcceptsBlank` — a program that comes to its end in the empty text;
* `Checker.FindsBlank` — a checker for forbidden words with such a pattern.

Main results:

* `Regex.findAll_nil` — **what is found in the empty text**;
* `Linting.eq_nil_of_lintAll` — **a linter has nothing to say of unedited files**;
* `verdict_of_unedited` — **what is said of unedited files**.
-/

namespace StandardsGate

/-- Whether no line was added to a file. -/
def EditedFile.IsUnedited (f : EditedFile) : Prop := ∀ n, f.isEdited n = false

namespace EditedFile

variable {f : EditedFile}

theorem IsUnedited.entries_eq_nil (h : f.IsUnedited) : f.lines.entries = [] := by
  rw [List.eq_nil_iff_forall_not_mem]
  rintro ⟨n, text⟩ hmem
  have hkey : n ∈ f.lines.keys := List.mem_map_of_mem hmem
  have hn := h n
  rw [isEdited, ← Bool.not_eq_true, OrderedMap.contains_iff] at hn
  exact hn hkey

/-- There is no text to search. -/
theorem IsUnedited.addedText_eq_nil (h : f.IsUnedited) : f.addedText = [] := by
  rw [addedText, OrderedMap.values, h.entries_eq_nil]
  rfl

end EditedFile

/-! ### The empty text -/

namespace Regex

/-- The assertions of a program that hold in the empty text. -/
def blankLooks (p : Program) : List Look :=
  (looks p).filter (Look.holds Unicode.wordCharacters none none)

/-- Whether a program comes to its end without taking a character, in the empty text. -/
def AcceptsBlank (p : Program) : Prop :=
  p.start < p.code.size ∧
    ∃ pc ∈ reach p.code (blankLooks p).contains p.start, p.code.getD pc .accept = .accept

/-- At the end of a text nothing can be taken. -/
theorem preferredEnd_none (p : Program) (pos : Nat) (col : Array (Option Nat))
    (targets : List Nat) :
    preferredEnd p none pos col targets = targets.findSome? fun pc =>
      match p.code.getD pc .accept with
      | .accept => some pos
      | _ => none := by
  rw [preferredEnd]
  congr 1
  funext pc
  cases p.code.getD pc .accept with
  | consume set next =>
      dsimp only
      cases col.getD next none <;> rfl
  | accept | assert | fork => rfl

/-- So a match there is empty, and comes from an instruction that accepts. -/
theorem preferredEnd_none_eq_some_iff {p : Program} {pos e : Nat} {col : Array (Option Nat)}
    {targets : List Nat} :
    preferredEnd p none pos col targets = some e ↔
      pos = e ∧ ∃ pc ∈ targets, p.code.getD pc .accept = .accept := by
  rw [preferredEnd_none]
  induction targets with
  | nil => simp
  | cons pc targets ih =>
      rw [List.findSome?_cons]
      simp only [List.mem_cons, exists_eq_or_imp]
      cases p.code.getD pc .accept with
      | accept => simp only [Option.some.injEq, true_or, and_true]
      | assert | fork | consume => simpa only [reduceCtorEq, false_or] using ih

/-- In the empty text there is one position, and a match there is empty. -/
theorem exists_ends_nil (r : Regex) :
    ∃ e, r.ends [] = [e] ∧ ∀ k, e = some k ↔ 0 = k ∧ AcceptsBlank r.program := by
  refine ⟨_, rfl, fun k => ?_⟩
  have hentry : r.program.start < r.program.code.size → r.program.start ∈ entries r.program :=
    fun hlt => mem_entries hlt (.inl rfl)
  rw [reachTable, List.foldl_map, getD_foldl_setIfInBounds, Array.size_replicate]
  split
  · rename_i hstart
    rw [preferredEnd_none_eq_some_iff]
    exact and_congr_right fun _ => (and_iff_right hstart.2).symm
  · rename_i hstart
    have hnone : ¬ AcceptsBlank r.program := fun h => hstart ⟨hentry h.1, h.1⟩
    rw [Array.getD_eq_getD_getElem?, Array.getElem?_replicate]
    split <;> simp [hnone]

/-- **In the empty text** a pattern finds the empty text if it can, and nothing otherwise. -/
theorem findAll_nil (r : Regex) :
    AcceptsBlank r.program ∧ r.findAll [] = [[]] ∨
      ¬ AcceptsBlank r.program ∧ r.findAll [] = [] := by
  obtain ⟨e, hends, he⟩ := r.exists_ends_nil
  rw [findAll, hends]
  cases e with
  | none => exact .inr ⟨fun h => (Option.some_ne_none 0) ((he 0).2 ⟨rfl, h⟩).symm, rfl⟩
  | some k =>
      obtain ⟨rfl, h⟩ := (he k).1 rfl
      exact .inl ⟨h, rfl⟩

/-- The program of a word takes its characters, so it comes to its end only if there are none. -/
theorem acceptsBlank_wordProgram_iff (word : List Char) :
    AcceptsBlank (wordProgram word) ↔ word = [] := by
  have hcode : (wordProgram word).code.getD (wordProgram word).start .accept = instrOf word :=
    getD_wordCode (List.suffix_refl word)
  cases word with
  | nil =>
      refine iff_of_true ⟨lt_size_wordProgram (List.suffix_refl []), _, ?_, hcode⟩ rfl
      rw [reach_eq_singleton (.inl hcode)]
      exact List.mem_singleton_self _
  | cons c word =>
      refine iff_of_false ?_ (List.cons_ne_nil c word)
      rintro ⟨-, pc, hpc, haccept⟩
      rw [reach_eq_singleton (.inr ⟨_, _, hcode⟩), List.mem_singleton] at hpc
      rw [hpc, hcode] at haccept
      cases haccept

end Regex

/-! ### The two kinds of checkers -/

namespace Linting

variable {σ : Type} [Hosted σ] {c : Collaborators σ} {policy : FaultPolicy} {root config : Path}
  {all files : List EditedFile}

/-- No message is about an unedited file. -/
theorem eq_nil_of_correlate (hall : ∀ f ∈ all, f.IsUnedited) {h : Host} {report : FileReport}
    {messages : List String} (hkept : correlate h report all root = .ok messages) :
    messages = [] := by
  rw [correlate_eq] at hkept
  split at hkept
  · rename_i g hg
    cases hkept
    have hnone : g.lines.keys = [] := by
      rw [OrderedMap.keys, (hall g (List.mem_of_find?_eq_some hg)).entries_eq_nil]
      rfl
    simp [Script.messagesOn, hnone]
  · cases hkept

theorem eq_nil_of_keep (hall : ∀ f ∈ all, f.IsUnedited) {report : FileReport} {s s' : σ}
    {messages : List String} (h : (keep all root report).run.run s = (.ok messages, s')) :
    messages = [] := by
  unfold keep at h
  rw [Action.run_bind_of_ok (Action.run_get s)] at h
  split at h
  · rename_i kept hkept
    cases h
    exact eq_nil_of_correlate hall hkept
  · cases h

/-- **A linter has nothing to say of unedited files.** -/
theorem eq_nil_of_lintAll (hall : ∀ f ∈ all, f.IsUnedited) {s s' : σ} {messages : List String}
    (h : (lintAll c policy root config all files).run.run s = (.ok messages, s')) :
    messages = [] := by
  induction files generalizing s messages with
  | nil => cases h; rfl
  | cons f files ih =>
      obtain ⟨report, s₁, -, h⟩ := Action.run_bind_eq_ok h
      -- whatever was said of the first file, nothing is said of those after it
      have hrest : ∀ {kept : List String} {s₂ : σ}, ((lintAll c policy root config all files >>=
          fun later => pure (kept ++ later)).run.run s₂ = (.ok messages, s')) → messages = kept := by
        intro kept s₂ h
        obtain ⟨later, s₃, hlater, h⟩ := Action.run_bind_eq_ok h
        cases h
        rw [ih hlater, List.append_nil]
      cases report with
      | none => exact hrest h
      | some report =>
          obtain ⟨kept, s₂, hkept, h⟩ := Action.run_bind_eq_ok h
          rw [hrest h, eq_nil_of_keep hall hkept]

end Linting

namespace ForbiddenWords

/-- The pattern in some settings comes from the text of their option. -/
theorem exists_compile_of_patternOf {s : Settings} {pattern : Regex}
    (h : patternOf s = .ok pattern) :
    ∃ raw, s.options.requireText s.name "pattern" = .ok raw ∧
      Pattern.compile raw = .ok pattern := by
  obtain ⟨raw, hraw, hcompile⟩ := exists_of_bind_eq_ok h
  refine ⟨raw, hraw, ?_⟩
  cases hword : Pattern.compile raw with
  | error fault =>
      rw [hword] at hcompile
      cases hcompile
  | ok r =>
      rw [hword] at hcompile
      exact congrArg Except.ok (Except.ok.inj hcompile)

/-- What is said of an unedited file: the empty text was found, or nothing. -/
theorem message?_of_unedited {f : EditedFile} (hf : f.IsUnedited) (pattern : Regex) :
    message? pattern f =
      if pattern.findAll [] = [] then none else some ("\"\" found in " ++ f.name) := by
  rw [message?, hf.addedText_eq_nil]
  rcases pattern.findAll_nil with ⟨-, h⟩ | ⟨-, h⟩
  · rw [h, if_neg (by simp)]
    rfl
  · rw [h, if_pos rfl]

end ForbiddenWords

/-- Whether a checker is for forbidden words, and the pattern of its options finds something without
taking a character. -/
def Checker.FindsBlank (checker : Checker Host) : Prop :=
  ∃ pattern, ForbiddenWords.patternOf checker.settings = .ok pattern ∧
    checker = ForbiddenWords.checker Host checker.settings pattern ∧
    Regex.AcceptsBlank pattern.program

/-- **What checkers say of unedited files**: that the empty text was found in each, or nothing. -/
theorem Builtin.messages_of_unedited {h : Host} {s : Settings} {checker : Checker Host}
    (hbuilt : Builtin h s checker) {files : List EditedFile} (hfiles : ∀ f ∈ files, f.IsUnedited)
    {w w' : Host} {messages : List String}
    (hrun : (checker.checkFiles files).run.run w = (.ok messages, w')) :
    checker.FindsBlank ∧ messages = (files.filter checker.accepts).map
        (fun f => "\"\" found in " ++ f.name) ∨
      ¬ checker.FindsBlank ∧ messages = [] := by
  by_cases hnone : files.filter checker.accepts = []
  · rw [Checker.checkFiles_of_eq_nil hnone] at hrun
    cases hrun
    rw [hnone]
    exact (Classical.em _).imp (⟨·, rfl⟩) (⟨·, rfl⟩)
  have hmeant : ∀ f ∈ files.filter checker.accepts, f.IsUnedited :=
    fun f hf => hfiles f (List.mem_filter.1 hf).1
  rw [Checker.checkFiles_of_ne_nil hnone] at hrun
  cases hbuilt with
  | @words pattern hpattern =>
      cases hrun
      rw [List.filterMap_congr fun f hf => ForbiddenWords.message?_of_unedited (hmeant f hf) pattern]
      rcases pattern.findAll_nil with ⟨hblank, hfound⟩ | ⟨hblank, hfound⟩
      · exact .inl ⟨⟨pattern, hpattern, rfl, hblank⟩, by simp [hfound]⟩
      · refine .inr ⟨?_, by simp [hfound]⟩
        -- the options have one pattern only
        rintro ⟨other, hother, -, hends⟩
        obtain rfl := Except.ok.inj (hpattern.symm.trans hother)
        exact hblank hends
  | linter hcommand hoptions =>
      refine .inr ⟨?_, ?_⟩
      · rintro ⟨pattern, -, hchecker, -⟩
        have hextensions := congrArg Checker.defaultExtensions hchecker
        exact absurd hextensions (by decide : Linting.extensions ≠ ForbiddenWords.extensions)
      · obtain ⟨copy, w₁, -, hlint⟩ := Action.run_bind_eq_ok hrun
        exact Linting.eq_nil_of_lintAll hmeant hlint

/-! ### Runs -/

/-- A run over unedited files that comes to a verdict rejects the commit exactly if it asks a checker
that finds the empty text about a file that it is meant for. -/
theorem rejected_iff_findsBlank {config : Config} {context : RunContext} {h h' : Host}
    {built : List (String × List (Checker Host))}
    (hbuilt : (Registry.builtin.instantiate config context).run.run h = (.ok built, h'))
    {d : Diff} (hd : ∀ f ∈ d.files.toList, f.IsUnedited) {rec : Recorder Host}
    {r r' : Running Host} {s : RunSummary}
    (hrun : (checkDiff rec config built d).run.run r = (.ok s, r')) :
    s.verdict = .rejected ↔ ∃ q ∈ config.questions built d.files.toList,
      q.checker.FindsBlank ∧ ∃ f ∈ q.files, q.checker.accepts f = true := by
  have hends := runEnds_checkDiff rec config built d r
  rw [hrun] at hends
  cases hends with
  | @finished w w' lines rs hinquiry hlines hfinish =>
      rw [config.verdict_summary_eq_rejected_iff]
      have hquestions := map_question_of_inquiry hinquiry
      -- what an answer says depends on the question only
      have hmessages : ∀ a ∈ rs, a.messages ≠ [] ↔ a.question.checker.FindsBlank ∧
          ∃ f ∈ a.question.files, a.question.checker.accepts f = true := by
        intro a ha
        have hmem : a.question ∈ config.questions built d.files.toList :=
          hquestions ▸ List.mem_map_of_mem ha
        obtain ⟨hchecker, hfiles⟩ := Config.of_mem_questions hmem
        obtain ⟨e, -, k, -, hkind⟩ := Registry.builtin_of_mem hbuilt hchecker
        obtain ⟨t, t', hasked⟩ := exists_checkFiles_of_inquiry hinquiry ha
        have hunedited : ∀ f ∈ a.question.files, f.IsUnedited := fun f hf =>
          hd f (Assignment.mem_filesOf.1 (hfiles ▸ hf)).1
        rcases hkind.messages_of_unedited hunedited hasked with
          ⟨hblank, hsaid⟩ | ⟨hblank, hsaid⟩
        · simp [hsaid, hblank]
        · simp [hsaid, hblank]
      constructor
      · rintro ⟨a, ha, hsome⟩
        exact ⟨a.question, hquestions ▸ List.mem_map_of_mem ha, (hmessages a ha).1 hsome⟩
      · rintro ⟨q, hq, hblank⟩
        obtain ⟨a, ha, rfl⟩ := List.mem_map.1 (hquestions ▸ hq)
        exact ⟨a, ha, (hmessages a ha).2 hblank⟩

/-! ### Words and the empty text -/

/-- A checker for a word finds the empty text if the word is empty. -/
theorem Builtin.findsBlank_iff_of_word {h : Host} {s : Settings} {checker : Checker Host}
    (hbuilt : Builtin h s checker)
    (hextensions : checker.defaultExtensions = ForbiddenWords.extensions) {word : List Char}
    (hword : checker.settings.options.text? "pattern" = some (String.ofList word))
    (hplain : ∀ c ∈ word, c ∉ Regex.metacharacters)
    (hhead : ∀ c ∈ word.head?, c ∉ Pattern.delimiters) : checker.FindsBlank ↔ word = [] := by
  cases hbuilt with
  | linter =>
      exact absurd hextensions (by decide : Linting.extensions ≠ ForbiddenWords.extensions)
  | @words pattern hpattern =>
      obtain ⟨raw, hraw, hcompile⟩ := ForbiddenWords.exists_compile_of_patternOf hpattern
      obtain rfl : raw = String.ofList word := by
        obtain ⟨v, hv, hstr⟩ := Option.bind_eq_some_iff.1 hword
        change s.options.get? "pattern" = some v at hv
        rw [Options.requireText, hv] at hraw
        dsimp only at hraw
        rw [hstr] at hraw
        exact (Except.ok.inj hraw).symm
      obtain rfl := Pattern.eq_of_compile hplain hhead hcompile
      rw [← Regex.acceptsBlank_wordProgram_iff]
      constructor
      · rintro ⟨other, hother, -, hblank⟩
        obtain rfl := Except.ok.inj (hpattern.symm.trans hother)
        exact hblank
      · exact fun hblank => ⟨_, hpattern, rfl, hblank⟩

/-- Checkers for forbidden words answer, so a run that asks only such comes to a verdict. -/
theorem exists_run_of_onlyPatterns {text : String} {config : Config} {context : RunContext}
    {h h' : Host} {built : List (String × List (Checker Host))}
    (hconfig : Config.ofYaml text = .ok config)
    (hbuilt : (Registry.builtin.instantiate config context).run.run h = (.ok built, h'))
    (hpatterns : config.OnlyPatterns) (d : Diff) (r : Running Host) :
    ∃ s r', (checkDiff (EventLog.recorder ⟨none⟩) config built d).run.run r = (.ok s, r') := by
  obtain ⟨remark, hremark⟩ := Config.exists_remark_of_onlyPatterns hbuilt hpatterns
  have hrun : (EventLog.recorder ⟨none⟩).Concludes _ (config.outcome built remark d) :=
    concludes_checkDiff hconfig hbuilt hremark d
  obtain ⟨r', hr'⟩ := hrun.eq_ok_of_isIdle EventLog.isIdle_recorder r
  exact ⟨_, r', hr'⟩

/-- What a question is about: the files that its checker is for by default, the pattern of its
options, and the files that are searched. -/
def Question.traits (q : Question Host) : List String × Option String × List String :=
  (q.checker.defaultExtensions, q.checker.settings.options.text? "pattern",
    (q.files.filter q.checker.accepts).map EditedFile.name)

/-- If the only question has the traits of a checker for a word, its checker finds the empty text if
the word is empty. -/
theorem exists_question_of_traits {config : Config} {context : RunContext} {h h' : Host}
    {built : List (String × List (Checker Host))} {files : List EditedFile}
    (hbuilt : (Registry.builtin.instantiate config context).run.run h = (.ok built, h'))
    (word : List Char) {names : List String}
    (htraits : (config.questions built files).map Question.traits =
      [(ForbiddenWords.extensions, some (String.ofList word), names)])
    (hplain : ∀ c ∈ word, c ∉ Regex.metacharacters)
    (hhead : ∀ c ∈ word.head?, c ∉ Pattern.delimiters) :
    ∃ q, config.questions built files = [q] ∧ (q.checker.FindsBlank ↔ word = []) ∧
      (q.files.filter q.checker.accepts).map EditedFile.name = names := by
  obtain ⟨q, qs, hquestions, hq, hqs⟩ := List.map_eq_cons_iff.1 htraits
  obtain rfl := List.map_eq_nil_iff.1 hqs
  obtain ⟨hextensions, hword, hnames⟩ : q.checker.defaultExtensions = ForbiddenWords.extensions ∧
      q.checker.settings.options.text? "pattern" = some (String.ofList word) ∧
      (q.files.filter q.checker.accepts).map EditedFile.name = names := by
    simpa only [Question.traits, Prod.mk.injEq] using hq
  have hmem : q ∈ config.questions built files := by simp [hquestions]
  obtain ⟨e, -, k, -, hbuiltin⟩ :=
    Registry.builtin_of_mem hbuilt (Config.of_mem_questions hmem).1
  exact ⟨q, hquestions, hbuiltin.findsBlank_iff_of_word hextensions hword hplain hhead, hnames⟩

/-! ### The main result -/

/-- **What is said of unedited files.** A checker that was built says nothing of them, unless it is
for forbidden words and its pattern needs no character: then it says of each file that it is meant
for that the empty text was found there. A run over unedited files that comes to a verdict rejects
the commit exactly if it asks such a checker about a file that it is meant for. -/
theorem verdict_of_unedited {files : List EditedFile} (hfiles : ∀ f ∈ files, f.IsUnedited) :
    (∀ spelling settings h h' checker,
      (Registry.builtin.build spelling settings).run.run h = (.ok checker, h') →
      ∀ w w' messages, (checker.checkFiles files).run.run w = (.ok messages, w') →
        checker.FindsBlank ∧ messages = (files.filter checker.accepts).map
            (fun f => "\"\" found in " ++ f.name) ∨
          ¬ checker.FindsBlank ∧ messages = []) ∧
    ∀ config context h h' built,
      (Registry.builtin.instantiate config context).run.run h = (.ok built, h') →
      ∀ d : Diff, d.files.toList = files →
      ∀ rec r r' s, (checkDiff rec config built d).run.run r = (.ok s, r') →
        (s.verdict = .rejected ↔ ∃ q ∈ config.questions built files,
          q.checker.FindsBlank ∧ ∃ f ∈ q.files, q.checker.accepts f = true) := by
  refine ⟨?_, ?_⟩
  · intro spelling settings h h' checker hbuild w w' messages hrun
    exact (Registry.builtin_of_build hbuild).messages_of_unedited hfiles hrun
  · rintro config context h h' built hbuilt d rfl rec r r' s hrun
    exact rejected_iff_findsBlank hbuilt hfiles hrun

/-- A change that only removes a line. -/
def removalText : String := "+++ b/a.js\n@@ -3 +2,0 @@\n-debugger;\n"

def removalDiff : Diff := (Diff.parse removalText).toOption.getD default

theorem removal_evaluated :
    (Diff.parse removalText).isOk = true ∧
      (∀ f ∈ removalDiff.files.toList, f.lines.keys = []) ∧
      (wordsConfig.questions wordsCheckers removalDiff.files.toList).map Question.traits =
        [(ForbiddenWords.extensions, some "debugger", ["a.js"])] := by
  decide +kernel

theorem isUnedited_removal : ∀ f ∈ removalDiff.files.toList, f.IsUnedited := by
  obtain ⟨-, hlines, -⟩ := removal_evaluated
  intro f hf n
  rw [EditedFile.isEdited, ← Bool.not_eq_true, OrderedMap.contains_iff, hlines f hf]
  exact List.not_mem_nil

/-- A checker for a word says nothing of a file that only lost a line with the word, and the commit is
accepted. -/
theorem verdict_of_unedited_words :
    Diff.parse removalText = .ok removalDiff ∧ (∀ f ∈ removalDiff.files.toList, f.IsUnedited) ∧
      (∃ q ∈ wordsConfig.questions wordsCheckers removalDiff.files.toList,
        (∃ spelling settings h h', (Registry.builtin.build spelling settings).run.run h =
          (.ok q.checker, h')) ∧
        (q.files.filter q.checker.accepts).map EditedFile.name = ["a.js"] ∧
        (q.checker.checkFiles q.files).run.run wordsHost = (.ok [], wordsHost)) ∧
      ∃ s r, (checkDiff (EventLog.recorder ⟨none⟩) wordsConfig wordsCheckers removalDiff).run.run
        ⟨wordsHost, []⟩ = (.ok s, r) ∧ s.verdict = .accepted := by
  obtain ⟨hparse, -, htraits⟩ := removal_evaluated
  obtain ⟨-, -, hpatterns, -⟩ := words_evaluated
  obtain ⟨q, hquestions, hblank, hnames⟩ := exists_question_of_traits instantiate_words
    "debugger".toList htraits (by simp [Regex.metacharacters]) (by simp [Pattern.delimiters])
  have hnot : ¬ q.checker.FindsBlank := fun h => List.cons_ne_nil _ _ (hblank.1 h)
  have hmem : q ∈ wordsConfig.questions wordsCheckers removalDiff.files.toList := by
    simp [hquestions]
  obtain ⟨hchecker, hfiles⟩ := Config.of_mem_questions hmem
  refine ⟨eq_ok_getD hparse, isUnedited_removal, ⟨q, hmem, ?_, hnames, ?_⟩, ?_⟩
  · obtain ⟨e, -, k, -, h, h', hbuild⟩ := Registry.exists_builds_of_mem instantiate_words hchecker
    exact ⟨_, _, h, h', hbuild⟩
  · obtain ⟨e, -, k, -, h, h', hbuild⟩ := Registry.exists_builds_of_mem instantiate_words hchecker
    obtain ⟨remark, hremark⟩ := Config.exists_remark_of_onlyPatterns instantiate_words hpatterns
    have hunedited : ∀ f ∈ q.files, f.IsUnedited := fun f hf =>
      isUnedited_removal f (Assignment.mem_filesOf.1 (hfiles ▸ hf)).1
    have hrun : (q.checker.checkFiles q.files).run.run wordsHost =
        (.ok (q.files.filterMap (remark q.checker)), wordsHost) := by
      rw [hremark q.standard q.checker hchecker q.files]
      rfl
    obtain ⟨-, hnone⟩ := ((verdict_of_unedited hunedited).1 _ _ _ _ _ hbuild _ _ _
      hrun).resolve_left fun hsome => hnot hsome.1
    rw [hrun, hnone]
  · obtain ⟨s, r, hrun⟩ := exists_run_of_onlyPatterns ofYaml_words instantiate_words hpatterns
      removalDiff ⟨wordsHost, []⟩
    have hverdict := (verdict_of_unedited isUnedited_removal).2 _ _ _ _ _ instantiate_words _ rfl
      _ _ _ _ hrun
    refine ⟨s, r, hrun, ?_⟩
    cases hs : s.verdict with
    | accepted => rfl
    | rejected =>
        obtain ⟨q', hq', hblank', -⟩ := hverdict.1 hs
        rw [hquestions, List.mem_singleton] at hq'
        exact absurd (hq' ▸ hblank') hnot

/-! ### The empty word -/

/-- A checker for the empty word. -/
def blankText : String :=
  "main:\n  checkers:\n    words:\n      checker: pattern\n      options:\n" ++
    "        pattern: \"\"\n"

def blankConfig : Config := (Config.ofYaml blankText).toOption.getD default

def blankBuilt : Except Error (List (String × List (Checker Host))) × Host :=
  (Registry.builtin.instantiate blankConfig notingContext).run.run wordsHost

def blankCheckers : List (String × List (Checker Host)) := blankBuilt.1.toOption.getD default

theorem blank_evaluated :
    (Config.ofYaml blankText).isOk = true ∧ blankBuilt.1.isOk = true ∧ blankConfig.OnlyPatterns ∧
      (blankConfig.questions blankCheckers removalDiff.files.toList).map Question.traits =
        [(ForbiddenWords.extensions, some (String.ofList []), ["a.js"])] := by
  decide +kernel

/-- A checker for the empty word finds it in a file that only lost a line, and the commit is
rejected. -/
theorem rejected_of_removal_blank :
    Config.ofYaml blankText = .ok blankConfig ∧
      (Registry.builtin.instantiate blankConfig notingContext).run.run wordsHost =
        (.ok blankCheckers, blankBuilt.2) ∧
      (∀ f ∈ removalDiff.files.toList, f.IsUnedited) ∧
      (∃ q ∈ blankConfig.questions blankCheckers removalDiff.files.toList,
        (q.checker.checkFiles q.files).run.run wordsHost =
          (.ok ["\"\" found in a.js"], wordsHost)) ∧
      ∃ s r, (checkDiff (EventLog.recorder ⟨none⟩) blankConfig blankCheckers removalDiff).run.run
        ⟨wordsHost, []⟩ = (.ok s, r) ∧ s.verdict = .rejected := by
  obtain ⟨hyaml, hbuilt, hpatterns, htraits⟩ := blank_evaluated
  have hconfig : Config.ofYaml blankText = .ok blankConfig := by
    rw [blankConfig]
    exact eq_ok_getD hyaml
  have hcheckers : (Registry.builtin.instantiate blankConfig notingContext).run.run wordsHost =
      (.ok blankCheckers, blankBuilt.2) := by
    rw [blankCheckers]
    exact pair_eq_ok_getD hbuilt
  obtain ⟨q, hquestions, hblank, hnames⟩ :=
    exists_question_of_traits hcheckers [] htraits (by simp) (by simp)
  have hmem : q ∈ blankConfig.questions blankCheckers removalDiff.files.toList := by
    simp [hquestions]
  obtain ⟨hchecker, hfiles⟩ := Config.of_mem_questions hmem
  refine ⟨hconfig, hcheckers, isUnedited_removal, ⟨q, hmem, ?_⟩, ?_⟩
  · obtain ⟨e, -, k, -, hbuiltin⟩ := Registry.builtin_of_mem hcheckers hchecker
    obtain ⟨remark, hremark⟩ := Config.exists_remark_of_onlyPatterns hcheckers hpatterns
    have hunedited : ∀ f ∈ q.files, f.IsUnedited := fun f hf =>
      isUnedited_removal f (Assignment.mem_filesOf.1 (hfiles ▸ hf)).1
    have hrun : (q.checker.checkFiles q.files).run.run wordsHost =
        (.ok (q.files.filterMap (remark q.checker)), wordsHost) := by
      rw [hremark q.standard q.checker hchecker q.files]
      rfl
    obtain ⟨-, hsaid⟩ := (hbuiltin.messages_of_unedited hunedited hrun).resolve_right
      fun hnone => hnone.1 (hblank.2 rfl)
    have hanswer := congrArg (List.map ("\"\" found in " ++ ·)) hnames
    rw [List.map_map] at hanswer
    rw [hrun, hsaid]
    exact congrArg (fun messages => (Except.ok messages, wordsHost)) hanswer
  · obtain ⟨s, r, hrun⟩ := exists_run_of_onlyPatterns hconfig hcheckers hpatterns removalDiff
      ⟨wordsHost, []⟩
    refine ⟨s, r, hrun, (rejected_iff_findsBlank hcheckers isUnedited_removal hrun).2
      ⟨q, hmem, hblank.2 rfl, ?_⟩⟩
    obtain ⟨f, fs, hf, -⟩ := List.map_eq_cons_iff.1 hnames
    have haccepted : f ∈ q.files.filter q.checker.accepts := by simp [hf]
    exact ⟨f, List.mem_filter.1 haccepted⟩

end StandardsGate
