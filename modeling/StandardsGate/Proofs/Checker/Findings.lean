import StandardsGate.Proofs.Regex.Word
import StandardsGate.Proofs.Run.Composition

/-!
What a pattern is said to have found.

The checker for forbidden words speaks of each file that it is meant for and in whose text its
pattern matches. It quotes the matches from the left to the right, each behind the end of the one
before, and names the file. Lines are not told apart in that text, so a match may begin in one added
line and end in another.

Main definitions:

* `ForbiddenWords.quoting` — a message that quotes what stands in some places of a file's text.

Main results:

* `ForbiddenWords.message?_eq` — the message for a file, from where the matches stand;
* `ForbiddenWords.checkFiles_exact` — **what is reported**, of which files and in which order.
-/

namespace StandardsGate.ForbiddenWords

/-- The message that quotes what stands in some places of a file's text. -/
def quoting (f : EditedFile) (places : List (Nat × Nat)) : String :=
  "\"" ++ "\", \"".intercalate
    (places.map fun m => String.ofList ((f.addedText.drop m.1).take (m.2 - m.1))) ++
    "\" found in " ++ f.name

/-- The message for a file quotes the matches, if there are any. -/
theorem message?_eq (r : Regex) (f : EditedFile) :
    message? r f =
      if (r.spans f.addedText).isEmpty then none else some (quoting f (r.spans f.addedText)) := by
  unfold message?
  rw [Regex.findAll_eq]
  split
  · rename_i hnil
    rw [List.map_eq_nil_iff.1 hnil]
    rfl
  · rename_i hfound
    have hspans : r.spans f.addedText ≠ [] := fun hnil => hfound (by rw [hnil]; rfl)
    rw [if_neg (by simpa using hspans), List.map_map]
    rfl

variable {σ : Type}

/-- The extensions that are declared decide which files are searched, or else the usual ones. -/
theorem accepts_checker_iff {s : Settings} {r : Regex} {f : EditedFile} :
    (checker σ s r).accepts f = true ↔
      ∃ e, f.extension? = some e ∧ e ∈ s.extensions.getD extensions := by
  unfold Checker.accepts
  split
  · rename_i e hextension
    simp [hextension, Checker.extensions, checker]
  · rename_i hextension
    simp [hextension]

/-- **What is reported.** For every text there is one list of places where a pattern is found: the
leftmost match that counts, the leftmost one behind its end, and so on; it is empty only if the
pattern matches nowhere. The checker answers, whatever the files, and changes nothing. It has one
message for each file of an extension that it is meant for in which the pattern is found, in the
order of the files, and the message quotes what is found from the left to the right. So what it says
of two lists of files, one behind the other, is what it says of each of them. A pattern that is a
word matches where the word stands. -/
theorem checkFiles_exact (s : Settings) (r : Regex) :
    ∃ found : List Char → List (Nat × Nat),
      (∀ text places, Regex.Successive (r.ends text) 0 none places ↔ found text = places) ∧
      (∀ text, found text ≠ [] ↔ ∃ i e, i ≤ e ∧ e ≤ text.length ∧
        (r.ends text)[i]? = some (some e)) ∧
      (∀ f, (checker σ s r).accepts f = true ↔
        ∃ e, f.extension? = some e ∧ e ∈ s.extensions.getD ["php", "js"]) ∧
      (∀ files w, ((checker σ s r).checkFiles files).run.run w =
        (.ok ((files.filter fun f =>
          (checker σ s r).accepts f && !(found f.addedText).isEmpty).map fun f =>
            quoting f (found f.addedText)), w)) ∧
      (∀ files more w, ∃ messages others,
        ((checker σ s r).checkFiles files).run.run w = (.ok messages, w) ∧
        ((checker σ s r).checkFiles more).run.run w = (.ok others, w) ∧
        ((checker σ s r).checkFiles (files ++ more)).run.run w = (.ok (messages ++ others), w)) ∧
      ∀ word, (∀ c ∈ word, c ∉ Regex.metacharacters) →
        Regex.compile (String.ofList word) = .ok r →
        ∀ text i e, (r.ends text)[i]? = some (some e) ↔
          i ≤ text.length ∧ word <+: text.drop i ∧ e = i + word.length := by
  have hsuccessive := r.successive_iff
  have hanswer : ∀ files (w : σ), ((checker σ s r).checkFiles files).run.run w =
      (.ok ((files.filter fun f =>
        (checker σ s r).accepts f && !(r.spans f.addedText).isEmpty).map fun f =>
          quoting f (r.spans f.addedText)), w) := by
    intro files w
    rw [remarks_checker s r files]
    refine congrArg (fun messages => (Except.ok messages, w)) ?_
    rw [← List.filterMap_eq_map, List.filterMap_filter]
    refine congrArg (List.filterMap · files) (funext fun f => ?_)
    rw [message?_eq]
    cases (checker σ s r).accepts f <;> cases (r.spans f.addedText).isEmpty <;> rfl
  refine ⟨r.spans, hsuccessive, fun text => ?_, fun f => accepts_checker_iff, hanswer,
    fun files more w => ?_, fun word hword hcompile text i e => ?_⟩
  · rw [((hsuccessive text _).2 rfl).ne_nil_iff]
    constructor
    · rintro ⟨i, e, hmatch⟩
      obtain ⟨hle, hlt⟩ := Regex.bounds_of_ends hmatch
      exact ⟨i, e, hle, hlt, hmatch⟩
    · rintro ⟨i, e, -, -, hmatch⟩
      exact ⟨i, e, hmatch⟩
  · refine ⟨_, _, hanswer files w, hanswer more w, ?_⟩
    rw [hanswer (files ++ more) w, List.filter_append, List.map_append]
  · obtain rfl := Regex.eq_of_compile_word hword hcompile
    exact Regex.getElem?_ends_word_iff

/-- A file of two added lines, the second one going on in the middle of a word. -/
def brokenFile : EditedFile := (EditedFile.new "a.js").registerAll [(1, "baaa"), (2, "ab")]

/-- The same lines in a file of another kind. -/
def brokenSheet : EditedFile := (EditedFile.new "a.css").registerAll [(1, "baaa"), (2, "ab")]

theorem broken_evaluated :
    (Regex.compile (String.ofList ['a', 'a'])).isOk = true ∧
      brokenFile.addedText = "baaaab".toList ∧
      brokenFile.extension? = some "js" ∧ brokenSheet.extension? = some "css" ∧
      quoting brokenFile [(1, 3), (3, 5)] = "\"aa\", \"aa\" found in a.js" := by
  decide +kernel

/-- The word is found twice, once over the border of the two lines, and not where both overlap. -/
theorem checkFiles_exact_broken :
    ∃ r, Regex.compile (String.ofList ['a', 'a']) = .ok r ∧
      ((checker Unit default r).checkFiles [brokenSheet, brokenFile]).run.run () =
        (.ok ["\"aa\", \"aa\" found in a.js"], ()) := by
  obtain ⟨hcompile, htext, hfile, hsheet, hquoting⟩ := broken_evaluated
  obtain ⟨r, hr⟩ : ∃ r, Regex.compile (String.ofList ['a', 'a']) = .ok r := by
    cases h : Regex.compile (String.ofList ['a', 'a']) with
    | error e =>
        rw [h] at hcompile
        cases hcompile
    | ok r => exact ⟨r, rfl⟩
  obtain ⟨found, hfound, -, haccepts, hanswer, -, hword⟩ :=
    checkFiles_exact (σ := Unit) default r
  -- the word stands at three places, of which the middle one overlaps with the others
  have hstands : ∀ i ≤ "baaaab".toList.length,
      (['a', 'a'] <+: "baaaab".toList.drop i) = (i = 1 ∨ i = 2 ∨ i = 3) := by
    decide
  have hmatch : ∀ i e, (r.ends brokenFile.addedText)[i]? = some (some e) ↔
      (i = 1 ∨ i = 2 ∨ i = 3) ∧ e = i + 2 := by
    intro i e
    rw [hword ['a', 'a'] (by simp [Regex.metacharacters]) hr, htext]
    constructor
    · rintro ⟨hi, hprefix, he⟩
      exact ⟨hstands i hi ▸ hprefix, he⟩
    · rintro ⟨hi, he⟩
      have hle : i ≤ "baaaab".toList.length := by
        have : "baaaab".toList.length = 6 := rfl
        omega
      exact ⟨hle, (hstands i hle).symm ▸ hi, he⟩
  have hplaces : found brokenFile.addedText = [(1, 3), (3, 5)] := by
    refine (hfound _ _).1 (.next (by omega) ⟨(hmatch 1 3).2 (by simp), by simp⟩ ?_
      (.next (Nat.le_refl 3) ⟨(hmatch 3 5).2 (by simp), by simp⟩ ?_ (.done ?_)))
    · intro j e' _ hlt hcounts
      have := (hmatch j e').1 hcounts.1
      omega
    · intro j e' hle hlt
      omega
    · intro i e hle hcounts
      have := (hmatch i e).1 hcounts.1
      omega
  have hmeant : (checker Unit default r).accepts brokenFile = true :=
    (haccepts _).2 ⟨"js", hfile, by decide⟩
  have hother : (checker Unit default r).accepts brokenSheet = false := by
    rw [Bool.eq_false_iff]
    intro haccepted
    obtain ⟨e, he, hmem⟩ := (haccepts _).1 haccepted
    obtain rfl := Option.some.inj (hsheet.symm.trans he)
    exact absurd hmem (by decide)
  have hfilter : ([brokenSheet, brokenFile].filter fun f =>
      (checker Unit default r).accepts f && !(found f.addedText).isEmpty) = [brokenFile] := by
    simp [hother, hmeant, hplaces]
  refine ⟨r, hr, ?_⟩
  rw [hanswer, hfilter, List.map_singleton, hplaces, hquoting]

end StandardsGate.ForbiddenWords
