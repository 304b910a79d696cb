import StandardsGate.Proofs.Host.Action
import StandardsGate.Proofs.Host.Trail
import StandardsGate.Proofs.Host.Walking
import StandardsGate.Proofs.Text.Utf8
import StandardsGate.Run.Inputs

/-!
Where a diff comes from.

The bytes of a diff are printed by git, or they stand in a file or in standard input. Git's output
and files are decoded with replacement characters, so that any bytes are a diff; standard input has
to be UTF-8. So the sources differ on ill-formed bytes, and only there.

Main definitions:

* `DiffSource.Offers` — whether a source has some bytes to offer on a host;
* `DiffSource.result` — the diff that is read from a source, or the error.

Main results:

* `DiffSource.result_of_offers` — **what is read from a source** depends on the bytes that it offers;
* `DiffSource.result_eq_iff` — **files and git agree on all bytes**, standard input agrees with them
  exactly on well-formed ones.
-/

namespace StandardsGate.DiffSource

/-- Whether a source has some bytes to offer on a host: git ends well and prints them, or they are
what can be read. -/
def Offers (h : Host) (bs : Bytes) : DiffSource → Prop
  | staged repoRoot => ∃ errors h', h.launch (Git.invocation repoRoot Git.diffArguments) =
      (.ok ⟨.exited 0, bs, errors⟩, h')
  | standardInput => h.input = bs
  | file p => h.files.read h.directory p = .ok bs

/-- The diff that is read from a source on a host, or the error. -/
def result (source : DiffSource) (h : Host) : Except Error Diff := (source.read.run.run h).1

variable {h : Host} {bs : Bytes}

/-! ### One source -/

theorem run_parse (text : String) (h : Host) :
    ((parse text).run.run h).1 = Git.readDiff text := by
  unfold parse
  cases Git.readDiff text <;> rfl

/-- What git prints is decoded with replacement characters. -/
theorem result_staged {repoRoot : Path} (hoffers : (staged repoRoot).Offers h bs) :
    (staged repoRoot).result h = Git.readDiff (Utf8.decodeLossy bs) := by
  obtain ⟨errors, h', hlaunch⟩ := hoffers
  have hlaunched : (onHost (fun e => .git (.notStarted (Git.commandName Git.diffArguments) e))
      fun h => h.launch (Git.invocation repoRoot Git.diffArguments)).run.run h =
        (.ok ⟨.exited 0, bs, errors⟩, h') :=
    run_onHost_of_ok _ hlaunch
  have hrun : (Git.run repoRoot Git.diffArguments).run.run h = (.ok bs, h') := by
    rw [Git.run, Action.run_bind_of_ok hlaunched, if_pos rfl]
    rfl
  rw [result, read, Git.stagedChanges, Action.run_bind_of_ok hrun]
  cases Git.readDiff (Utf8.decodeLossy bs) <;> rfl

/-- What stands in a file is decoded with replacement characters. -/
theorem result_file {p : Path} (hoffers : (file p).Offers h bs) :
    (file p).result h = Git.readDiff (Utf8.decodeLossy bs) := by
  have hread : h.files.read h.directory p = .ok bs := hoffers
  have hrun : (onHost (fun e => .user (.unreadableDiff p e)) fun h : Host =>
      (h.files.read h.directory p, h)).run.run h = (.ok bs, h) :=
    run_onHost_of_ok _ (by rw [hread])
  rw [result, read, Action.run_bind_of_ok hrun, run_parse]

/-- Well-formed bytes in standard input are decoded. -/
theorem result_standardInput {text : String} (hoffers : standardInput.Offers h bs)
    (htext : Utf8.decode? bs = some text) : standardInput.result h = Git.readDiff text := by
  have hinput : h.input = bs := hoffers
  have hrun : (onHost (fun e => .user (.unreadableInput e)) fun h : Host =>
      (textOf h.input, { h with input := [] })).run.run h = (.ok text, { h with input := [] }) := by
    refine run_onHost_of_ok _ ?_
    rw [hinput, textOf, htext]
  rw [result, read, Action.run_bind_of_ok hrun, run_parse]

/-- Other bytes in standard input are refused. -/
theorem result_standardInput_of_none (hoffers : standardInput.Offers h bs)
    (hnone : Utf8.decode? bs = none) :
    standardInput.result h = .error (.user (.unreadableInput .notText)) := by
  have hinput : h.input = bs := hoffers
  have hrun : (onHost (fun e => .user (.unreadableInput e)) fun h : Host =>
      (textOf h.input, { h with input := [] })).run.run h =
        (.error (.user (.unreadableInput .notText)), { h with input := [] }) := by
    simp only [onHost, ExceptT.run, StateT.run, hinput, textOf, hnone]
  rw [result, read, Action.run_bind_of_error hrun]

/-- **What is read from a source** depends on the bytes that it offers, and on nothing else that
the host has. -/
theorem result_of_offers {source : DiffSource} (hoffers : source.Offers h bs) :
    source.result h =
      if source = standardInput ∧ Utf8.decode? bs = none then
        .error (.user (.unreadableInput .notText))
      else Git.readDiff (Utf8.decodeLossy bs) := by
  cases source with
  | staged repoRoot => rw [result_staged hoffers, if_neg (by simp)]
  | file p => rw [result_file hoffers, if_neg (by simp)]
  | standardInput =>
      cases htext : Utf8.decode? bs with
      | none => rw [result_standardInput_of_none hoffers htext, if_pos ⟨rfl, rfl⟩]
      | some text =>
          rw [result_standardInput hoffers htext, if_neg (by simp),
            Utf8.decodeLossy_of_decode? htext]

/-! ### All sources -/

/-- A diff that was read fails only for its numbers. -/
theorem readDiff_ne_unreadable (text : String) (e : IoError) :
    Git.readDiff text ≠ .error (.user (.unreadableInput e)) := by
  unfold Git.readDiff
  cases Diff.parse text with
  | ok d => exact fun hd => by cases hd
  | error o => exact fun hd => by cases hd

theorem ofArgument_dash (base repoRoot : Path) :
    ofArgument (some "-") base repoRoot = standardInput := by
  have hsame : ("-" : Path).same "-" = true := by decide
  rw [ofArgument, if_pos hsame]

theorem ofArgument_file {p : Path} (hp : p.same "-" = false) (base repoRoot : Path) :
    ofArgument (some p) base repoRoot = file (p.absolutize base) := by
  rw [ofArgument, hp, if_neg Bool.false_ne_true]

/-- **Files and git agree on all bytes**, standard input agrees with them exactly on well-formed
ones. A file that is named, a dash and no argument are given; each source may be read on a host of
its own that offers the same bytes. -/
theorem result_eq_iff {p base repoRoot : Path} {onFile onInput onGit : Host} {bs : Bytes}
    (hp : p.same "-" = false) (hfile : (file (p.absolutize base)).Offers onFile bs)
    (hinput : standardInput.Offers onInput bs) (hgit : (staged repoRoot).Offers onGit bs) :
    (ofArgument (some p) base repoRoot).result onFile = Git.readDiff (Utf8.decodeLossy bs) ∧
      (ofArgument none base repoRoot).result onGit = Git.readDiff (Utf8.decodeLossy bs) ∧
      ((ofArgument (some "-") base repoRoot).result onInput = Git.readDiff (Utf8.decodeLossy bs) ↔
        ∃ text, Utf8.decode? bs = some text) ∧
      (Utf8.decode? bs = none → (ofArgument (some "-") base repoRoot).result onInput =
        .error (.user (.unreadableInput .notText))) := by
  have hdash := result_of_offers hinput
  rw [ofArgument_file hp, ofArgument_dash]
  refine ⟨result_file hfile, result_staged hgit, ?_, result_standardInput_of_none hinput⟩
  cases htext : Utf8.decode? bs with
  | none =>
      rw [result_standardInput_of_none hinput htext]
      constructor
      · intro heq
        exact absurd heq.symm (readDiff_ne_unreadable _ _)
      · rintro ⟨text, h⟩
        cases h
  | some text =>
      rw [result_standardInput hinput htext, Utf8.decodeLossy_of_decode? htext]
      exact ⟨fun _ => ⟨text, rfl⟩, fun _ => rfl⟩

/-! ### A host with three sources -/

/-- Some bytes as a file, as standard input and as git's output. -/
def offering (bs : Bytes) : Host where
  files := (FileTree.empty.put [['g']] .directory).put [['g'], ['d']] (.file bs false)
  directory := [['g']]
  executable := "/g/guard"
  input := bs
  actor := "guard"
  now := ⟨0, 0⟩
  processId := 1
  writes := 0
  start _ _ t := (.ok ⟨.exited 0, bs, []⟩, t)

theorem read_offering (bs : Bytes) :
    (offering bs).files.read (offering bs).directory (Location.path [['g'], ['d']]) = .ok bs := by
  have hplain : Location.IsPlain [['g'], ['d']] := by decide
  have hfile : (offering bs).files.get? [['g'], ['d']] = some (.file bs false) := by
    rw [offering, FileTree.get?_put hplain.1, if_pos rfl]
  have hreaches : (offering bs).files.Reaches [['g'], ['d']] := by
    refine ⟨hplain, fun i hi => ?_⟩
    have hshort : ([['g'], ['d']] : Location).take i ≠ [['g'], ['d']] := fun heq => by
      have := congrArg List.length heq
      rw [List.length_take] at this
      omega
    rw [offering, FileTree.get?_put hplain.1, if_neg hshort]
    match i, hi with
    | 0, _ => rfl
    | 1, _ => rfl
  rw [FileTree.read, FileTree.find_path hreaches _ hfile rfl]
  rfl

/-- All three sources offer the bytes. -/
theorem offers_offering (bs : Bytes) :
    (file (("d" : Path).absolutize "/g")).Offers (offering bs) bs ∧
      standardInput.Offers (offering bs) bs ∧ (staged "/g").Offers (offering bs) bs := by
  have hpath : ("d" : Path).absolutize "/g" = Location.path [['g'], ['d']] := by decide
  refine ⟨?_, rfl, [], offering bs, rfl⟩
  rw [hpath]
  exact read_offering bs

/-- A diff with a letter that takes two bytes. -/
def accentedText : String := "+++ b/a.js\n@@ -0,0 +1 @@\n+\u00e9\n"

/-- A diff with a letter is read alike from a file, from standard input and from git. -/
theorem result_accented :
    (ofArgument (some "d") "/g" "/g").result (offering (Utf8.encode accentedText)) =
        (ofArgument none "/g" "/g").result (offering (Utf8.encode accentedText)) ∧
      (ofArgument (some "-") "/g" "/g").result (offering (Utf8.encode accentedText)) =
        (ofArgument none "/g" "/g").result (offering (Utf8.encode accentedText)) := by
  have hname : ("d" : Path).same "-" = false := by decide
  obtain ⟨hfile, hinput, hgit⟩ := offers_offering (Utf8.encode accentedText)
  obtain ⟨honFile, honGit, honInput, -⟩ := result_eq_iff hname hfile hinput hgit
  have hwhole := honInput.2 ⟨accentedText, Utf8.decode?_encode accentedText⟩
  rw [honFile, honGit, hwhole]
  exact ⟨rfl, rfl⟩

/-- The diff of a line with a byte that begins no character. -/
def legacyBytes : Bytes := Utf8.encode "+++ b/a.js\n@@ -0,0 +1 @@\n+" ++ [0xE9, 0x0A]

/-- **Standard input refuses a diff that files and git give**: the same bytes have a diff with one
added line, or none. -/
theorem result_legacyBytes :
    (∃ d, (ofArgument (some "d") "/g" "/g").result (offering legacyBytes) = .ok d ∧
        (ofArgument none "/g" "/g").result (offering legacyBytes) = .ok d ∧
        d.files.toList.map (fun f => (f.name, f.lines.entries)) =
          [("a.js", [(1, "\uFFFD")])]) ∧
      (ofArgument (some "-") "/g" "/g").result (offering legacyBytes) =
        .error (.user (.unreadableInput .notText)) := by
  have hname : ("d" : Path).same "-" = false := by decide
  obtain ⟨hfile, hinput, hgit⟩ := offers_offering legacyBytes
  have hnone : Utf8.decode? legacyBytes = none := by decide +kernel
  have hlines : ((Git.readDiff (Utf8.decodeLossy legacyBytes)).toOption.map fun d =>
      d.files.toList.map fun f => (f.name, f.lines.entries)) =
        some [("a.js", [(1, "\uFFFD")])] := by
    decide +kernel
  obtain ⟨d, hd, hentries⟩ := Option.map_eq_some_iff.1 hlines
  have hread := eq_ok_of_toOption hd
  rw [ofArgument_file hname, ofArgument_dash]
  exact ⟨⟨d, (result_file hfile).trans hread, (result_staged hgit).trans hread, hentries⟩,
    result_standardInput_of_none hinput hnone⟩

end StandardsGate.DiffSource
