import StandardsGate.Checker.ForbiddenWords
import StandardsGate.Proofs.Diff.AddedText
import StandardsGate.Proofs.Host.Action
import StandardsGate.Proofs.Regex.Word

/-!
Forbidden words in added lines.

The checker for forbidden words searches the text of each file. That text has all added lines of the
file if their numbers are distinct; a line whose number comes again is replaced. What a pattern
without assertions finds in a line that stays it also finds in the whole text, so the checker says
something of the file.

Main results:

* `ForbiddenWords.mem_checkFiles_of_infix` — a forbidden word in the text of a file is reported;
* `Diff.addedText_of_parse` — **what the checker gets to see of a diff**, and which lines it does
  not miss.
-/

namespace StandardsGate

namespace ForbiddenWords

/-- **A forbidden word in the text of a file is reported.** -/
theorem mem_checkFiles_of_infix {σ : Type} (s : Settings) {r : Regex} {word : List Char}
    (hr : r.Forbids word) {f : EditedFile} (h : word <:+: f.addedText) {files : List EditedFile}
    (hf : f ∈ files) (haccepts : (checker σ s r).accepts f = true) (w : σ) :
    ∃ messages m, ((checker σ s r).checkFiles files).run.run w = (.ok messages, w) ∧
      message? r f = some m ∧ m ∈ messages := by
  have hfound : r.findAll f.addedText ≠ [] := Regex.findAll_ne_nil_of_infix hr h
  obtain ⟨m, hm⟩ : ∃ m, message? r f = some m := by
    unfold message?
    split
    · rename_i hnil
      exact absurd hnil hfound
    · exact ⟨_, rfl⟩
  have hmem : f ∈ files.filter (checker σ s r).accepts := List.mem_filter.2 ⟨hf, haccepts⟩
  refine ⟨(files.filter (checker σ s r).accepts).filterMap (message? r), m, ?_, hm,
    List.mem_filterMap.2 ⟨f, hmem, hm⟩⟩
  rw [Checker.checkFiles_of_ne_nil (List.ne_nil_of_mem hmem)]
  rfl

end ForbiddenWords

namespace Diff

open ForbiddenWords (checker message?)

/-- **What the checker for forbidden words gets to see of a diff.** The added lines of a file are
the lines of its sections that begin with a plus sign and stand behind a hunk header. The text of
the file is, number by number, the one that came last; no line is lost exactly if no number is
repeated, and then the text is that of all added lines in order of appearance. A forbidden word in a
line whose number does not come again is reported, wherever the line stands. -/
theorem addedText_of_parse {text : String} {d : Diff} (h : parse text = .ok d) {f : EditedFile}
    (hf : f ∈ d.files.toList) :
    (additions f.name text).map Prod.snd = addedTexts f.name text ∧
      f.addedText =
        ((addedNumbers f.name text).eraseDups.filterMap (lastText? f.name text)).flatMap
          String.toList ∧
      (f.lines.values = addedTexts f.name text ↔ (addedNumbers f.name text).Nodup) ∧
      ((addedNumbers f.name text).Nodup →
        f.addedText = (addedTexts f.name text).flatMap String.toList) ∧
      ∀ front n t back, additions f.name text = front ++ (n, t) :: back →
        n ∉ back.map Prod.fst →
          t.toList <:+: f.addedText ∧
            ∀ (σ : Type) (s : Settings) (r : Regex) (word : List Char) (w : σ),
              r.Forbids word → word <:+: t.toList → (checker σ s r).accepts f = true →
                ∃ messages m,
                  ((checker σ s r).checkFiles d.files.toList).run.run w = (.ok messages, w) ∧
                    message? r f = some m ∧ m ∈ messages := by
  have hvalues := values_eq_addedTexts_iff h hf
  refine ⟨map_snd_additions .., addedText_eq h hf, hvalues, fun hnodup => ?_, ?_⟩
  · rw [EditedFile.addedText, hvalues.2 hnodup]
  · intro front n t back hadded hlast
    have hline : t.toList <:+: f.addedText := infix_addedText h hf hadded hlast
    exact ⟨hline, fun σ s r word w hr hword haccepts =>
      ForbiddenWords.mem_checkFiles_of_infix s hr (hword.trans hline) hf haccepts w⟩

/-- A file that comes twice; of its two hunks one has no number. -/
def spreadText : String :=
  "+++ b/a.js\n@@ garbage @@\n+let a;\n+++ b/b.css\n@@ -1 +1 @@\n+y\n" ++
    "+++ b/a.js\n@@ -1 +4 @@ f\n+debugger;\n"

def spreadDiff : Diff := (parse spreadText).toOption.getD default

def spreadFile : EditedFile := spreadDiff.files.toList.headD default

theorem spread_evaluated :
    (parse spreadText).isOk = true ∧
      spreadDiff.files.toList.map EditedFile.name = ["a.js", "b.css"] ∧
      spreadFile.extension? = some "js" ∧
      additions spreadFile.name spreadText = [(0, "let a;"), (4, "debugger;")] ∧
      (Pattern.compile "debugger").isOk = true := by
  decide +kernel

/-- The text of the file has the lines of both hunks, and the word in the second one is reported. -/
theorem addedText_of_parse_spread :
    parse spreadText = .ok spreadDiff ∧ spreadFile ∈ spreadDiff.files.toList ∧
      spreadFile.addedText = "let a;debugger;".toList ∧
      ∃ r messages m, Pattern.compile "debugger" = .ok r ∧ r.Forbids "debugger".toList ∧
        ((checker Unit default r).checkFiles spreadDiff.files.toList).run.run () =
          (.ok messages, ()) ∧ message? r spreadFile = some m ∧ m ∈ messages := by
  obtain ⟨hparse, hnames, hextension, hadded, hpattern⟩ := spread_evaluated
  have hdiff : parse spreadText = .ok spreadDiff := by
    rw [spreadDiff]
    exact eq_ok_getD hparse
  have hfile : spreadFile ∈ spreadDiff.files.toList := by
    rw [spreadFile]
    cases hfiles : spreadDiff.files.toList with
    | nil =>
        rw [hfiles] at hnames
        cases hnames
    | cons f fs => exact List.mem_cons_self ..
  obtain ⟨htexts, -, -, htext, hlines⟩ := addedText_of_parse hdiff hfile
  have hnodup : (addedNumbers spreadFile.name spreadText).Nodup := by
    rw [addedNumbers, hadded]
    decide
  refine ⟨hdiff, hfile, ?_, ?_⟩
  · rw [htext hnodup, ← htexts, hadded]
    decide
  · obtain ⟨r, hr⟩ : ∃ r, Pattern.compile "debugger" = .ok r := by
      cases hcompiled : Pattern.compile "debugger" with
      | error e =>
          rw [hcompiled] at hpattern
          cases hpattern
      | ok r => exact ⟨r, rfl⟩
    have hword : r.Forbids "debugger".toList :=
      Pattern.forbids_of_compile (by simp [Regex.metacharacters]) (by simp [Pattern.delimiters]) hr
    have haccepts : (checker Unit default r).accepts spreadFile = true := by
      rw [Checker.accepts, hextension]
      exact (by decide : ForbiddenWords.extensions.contains "js" = true)
    obtain ⟨-, hreport⟩ := hlines [(0, "let a;")] 4 "debugger;" [] hadded (by simp)
    obtain ⟨messages, m, hmessages⟩ :=
      hreport Unit default r _ () hword ⟨[], [';'], by decide⟩ haccepts
    exact ⟨r, messages, m, hr, hword, hmessages⟩

/-- A diff whose two hunks both count from 0. -/
def collidingText : String := "+++ b/a.js\n@@ garbage @@\n+debugger;\n@@ bad\n+x\n"

def collidingDiff : Diff := (parse collidingText).toOption.getD default

theorem colliding_evaluated :
    (parse collidingText).isOk = true ∧
      collidingDiff.files.toList.map (fun f => (f.name, f.addedText)) = [("a.js", ['x'])] ∧
      addedTexts "a.js" collidingText = ["debugger;", "x"] := by
  decide +kernel

/-- Two malformed hunks of a file collide: the line of the first one, with the word, is lost. -/
theorem addedText_of_colliding :
    ∃ d f, parse collidingText = .ok d ∧ d.files.toList = [f] ∧ f.addedText = ['x'] ∧
      (addedTexts f.name collidingText).flatMap String.toList = "debugger;x".toList ∧
      ¬ "debugger".toList <:+: f.addedText := by
  obtain ⟨hparse, hfiles, htexts⟩ := colliding_evaluated
  obtain ⟨f, hf, hname⟩ : ∃ f, collidingDiff.files.toList = [f] ∧
      (f.name, f.addedText) = ("a.js", ['x']) := by
    cases hlist : collidingDiff.files.toList with
    | nil =>
        rw [hlist] at hfiles
        cases hfiles
    | cons f fs =>
        rw [hlist] at hfiles
        obtain ⟨hhead, hrest⟩ := List.cons.inj hfiles
        exact ⟨f, by rw [List.map_eq_nil_iff.1 hrest], hhead⟩
  obtain ⟨hname, htext⟩ := Prod.mk.inj hname
  have hdiff : parse collidingText = .ok collidingDiff := by
    rw [collidingDiff]
    exact eq_ok_getD hparse
  refine ⟨collidingDiff, f, hdiff, hf, htext, ?_, ?_⟩
  · rw [hname, htexts]
    decide
  · rw [htext]
    decide

end Diff

end StandardsGate
