import StandardsGate.Proofs.Host.Temporary
import Mathlib.Logic.Function.Basic

/-!
Many writers of one file.

A file that is written in one piece goes to a temporary file first: it is created, filled in pieces,
synced, and renamed to the target. When many writers do so at once, each of their steps may come
between any two steps of the others, any step may fail, and any writer may stop for good. The names
of the temporary files keep the writers apart: a temporary file is touched by one writer alone, and
it is complete when it is renamed. So the target always is what it was, or what one writer has
written, as a whole.

Main definitions:

* `Racing.Writer`, `Racing.Phase`, `Racing.Writer.step` — what a writer does, step by step;
* `Racing.State`, `Racing.run` — what the steps of many writers come to, in any order;
* `Racing.IsRace` — writers of one target that differ in process or write;
* `Racing.Sound` — what holds of a state at every moment.

Main results:

* `Racing.Sound.turn`, `Racing.sound_run` — **what every turn and every run preserve**;
* `Racing.target_of_run` — **the target holds what the last writer has written**, or what it held;
* `Racing.read_of_run` — what readers of the target see.
-/

namespace StandardsGate

open FileTree

namespace Racing

/-! ### Writers -/

/-- A write of a file: where the path of its target starts, which write of which process it is, and
in which pieces the content is written. -/
structure Writer where
  directory : Location
  target : Path
  process : Nat
  write : Nat
  pieces : List Bytes

/-- What a writer writes. -/
def Writer.content (w : Writer) : Bytes := w.pieces.flatten

/-- How far a write has come. -/
inductive Phase
  | ready
  | writing (temporary : Path) (left : List Bytes)
  | synced (temporary : Path)
  | failing (temporary : Path)
  | renamed
  | failed
deriving DecidableEq

/-- What follows on a file operation: the next phase, unless the operation fails, be it for a reason
of its own. -/
def attempt (fault : Option IoError) (t : FileTree) (temporary : Path) (next : Phase)
    (done : Except IoError FileTree) : Phase × FileTree :=
  match fault, done with
  | none, .ok t' => (next, t')
  | _, _ => (.failing temporary, t)

/-- The next step of a write. -/
def Writer.step (w : Writer) (fault : Option IoError) (t : FileTree) : Phase → Phase × FileTree
  | .ready =>
    match temporaryPath w.target w.process w.write with
    | .error _ => (.failed, t)
    | .ok temporary =>
      attempt fault t temporary (.writing temporary w.pieces) (t.create w.directory temporary [])
  | .writing temporary (piece :: left) =>
    attempt fault t temporary (.writing temporary left) (t.append w.directory temporary piece)
  | .writing temporary [] => attempt fault t temporary (.synced temporary) (.ok t)
  | .synced temporary =>
    attempt fault t temporary .renamed (t.rename w.directory temporary w.target)
  | .failing temporary => (.failed, t.remove w.directory temporary)
  | .renamed => (.renamed, t)
  | .failed => (.failed, t)

theorem Writer.step_ready {w : Writer} {temporary : Path} (fault : Option IoError) (t : FileTree)
    (h : temporaryPath w.target w.process w.write = .ok temporary) :
    w.step fault t .ready = attempt fault t temporary (.writing temporary w.pieces)
      (t.create w.directory temporary []) := by
  rw [step, h]

/-! ### Races -/

/-- What has become of a file tree and of each writer, and who has renamed a file to the target, the
last one first. -/
structure State (ι : Type) where
  files : FileTree
  phase : ι → Phase
  renames : List ι

section Run

variable {ι : Type} [DecidableEq ι]

/-- The state after a step of one writer. -/
def State.turn (w : ι → Writer) (s : State ι) (i : ι) (fault : Option IoError) : State ι where
  files := ((w i).step fault s.files (s.phase i)).2
  phase := Function.update s.phase i ((w i).step fault s.files (s.phase i)).1
  renames :=
    if ((w i).step fault s.files (s.phase i)).1 = .renamed ∧ s.phase i ≠ .renamed then
      i :: s.renames
    else s.renames

/-- The state after steps of many writers, in whatever order. -/
def run (w : ι → Writer) (t : FileTree) (turns : List (ι × Option IoError)) : State ι :=
  turns.foldl (fun s c => s.turn w c.1 c.2) ⟨t, fun _ => .ready, []⟩

/-- **What holds at the start and is preserved by every turn** holds at every moment. -/
theorem run_induct {w : ι → Writer} {t : FileTree} {P : State ι → Prop}
    (start : P ⟨t, fun _ => .ready, []⟩)
    (turn : ∀ s i fault, P s → P (s.turn w i fault)) (turns : List (ι × Option IoError)) :
    P (run w t turns) := by
  have hfold : ∀ s : State ι, P s → P (turns.foldl (fun s c => s.turn w c.1 c.2) s) := by
    induction turns with
    | nil => exact fun s hs => hs
    | cons c turns ih => exact fun s hs => ih _ (turn s c.1 c.2 hs)
  exact hfold _ start

/-- The writers that have renamed a file are those that are done with it. -/
theorem mem_renames_run (w : ι → Writer) (t : FileTree) (turns : List (ι × Option IoError))
    (i : ι) : i ∈ (run w t turns).renames ↔ (run w t turns).phase i = .renamed := by
  refine run_induct (P := fun s => ∀ i, i ∈ s.renames ↔ s.phase i = .renamed) ?_ ?_ turns i
  · intro i
    simp
  · intro s i fault hs j
    have hstay : s.phase i = .renamed → ((w i).step fault s.files (s.phase i)).1 = .renamed := by
      intro h
      rw [h]
      rfl
    dsimp only [State.turn]
    generalize ((w i).step fault s.files (s.phase i)).1 = next at hstay ⊢
    by_cases hij : j = i
    · subst hij
      rw [Function.update_self]
      split
      · rename_i hnew
        simp [hnew.1]
      · rename_i hnew
        rw [hs]
        exact ⟨hstay, fun hnow => by_contra fun hnot => hnew ⟨hnow, hnot⟩⟩
    · rw [Function.update_of_ne hij]
      split
      · rw [List.mem_cons, or_iff_right hij, hs]
      · exact hs j

end Run

/-- Whether a writer writes to an entry of a directory. -/
structure WritesTo (t : FileTree) (dir : Location) (n : List Char) (w : Writer) : Prop where
  name : w.target.fileName? = some n
  parent : ∃ parent, w.target.parent? = some parent ∧
    t.find w.directory (parent.join ⟨['.']⟩) = .ok (dir, .directory)

/-- Where the temporary file of a writer stands. -/
def Writer.place (w : Writer) (dir : Location) (n : List Char) : Location :=
  dir ++ [temporaryName n w.process w.write]

/-- Whether writers write to one entry of a directory and differ in process or write. What stands
under the names of their temporary files is no link. -/
structure IsRace {ι : Type} (w : ι → Writer) (t : FileTree) (dir : Location) (n : List Char) :
    Prop where
  writesTo : ∀ i, WritesTo t dir n (w i)
  distinct : ∀ i j, (w i).process = (w j).process → (w i).write = (w j).write → i = j
  unlinked : ∀ i target, t.get? ((w i).place dir n) ≠ some (.link target)

/-! ### One step -/

section Step

variable {t₀ t t' : FileTree} {dir x y : Location} {n : List Char} {w : Writer}
  {fault : Option IoError} {phase : Phase}

/-- Whether one tree is another one, but for a place where a file may have come or gone. -/
def Touches (x : Location) (t t' : FileTree) : Prop :=
  t' = t ∨ t.IsBare x ∧
    (t' = t.erase x ∨ ∃ content runnable, t' = t.put x (.file content runnable))

theorem Touches.get?_of_ne (h : Touches x t t') (hy : y ≠ x) : t'.get? y = t.get? y := by
  rcases h with rfl | ⟨hbare, rfl | ⟨content, runnable, rfl⟩⟩
  · rfl
  · rw [get?_erase (ne_nil_of_ne_directory hbare.1), if_neg hy]
  · rw [get?_put (ne_nil_of_ne_directory hbare.1), if_neg hy]

theorem Touches.sameWaysBut (h : Touches x t t') (hx : x ≠ y) (hways : SameWaysBut y t₀ t) :
    SameWaysBut y t₀ t' := by
  rcases h with rfl | ⟨hbare, rfl | ⟨content, runnable, rfl⟩⟩
  · exact hways
  · exact hways.erase hx hbare
  · exact hways.put hbare.1 (.inr hbare) content runnable

/-- What the phase of a writer says of its temporary file. -/
def Writer.Owns (w : Writer) (dir : Location) (n : List Char) (t : FileTree) : Phase → Prop
  | .writing temporary left => temporaryPath w.target w.process w.write = .ok temporary ∧
      ∃ done runnable, done ++ left = w.pieces ∧
        t.get? (w.place dir n) = some (.file done.flatten runnable)
  | .synced temporary => temporaryPath w.target w.process w.write = .ok temporary ∧
      ∃ runnable, t.get? (w.place dir n) = some (.file w.content runnable)
  | .failing temporary => temporaryPath w.target w.process w.write = .ok temporary
  | _ => True

/-- Writers own their temporary files as long as nobody touches these. -/
theorem Writer.Owns.congr (h : w.Owns dir n t phase)
    (hget : t'.get? (w.place dir n) = t.get? (w.place dir n)) : w.Owns dir n t' phase := by
  cases phase <;> simp only [Owns, hget] at h ⊢ <;> exact h

theorem Writer.place_ne (w : Writer) (dir : Location) (n : List Char) :
    w.place dir n ≠ dir ++ [n] := by
  intro h
  exact ne_temporaryName n w.process w.write (by simpa [place] using h.symm)

/-- Where the path of a temporary file leads. -/
theorem WritesTo.exists_beside (hw : WritesTo t₀ dir n w) {temporary : Path}
    (h : temporaryPath w.target w.process w.write = .ok temporary) :
    ∃ parent, w.target.parent? = some parent ∧
      t₀.find w.directory (parent.join ⟨['.']⟩) = .ok (dir, .directory) ∧
      Beside parent (temporaryName n w.process w.write) temporary := by
  obtain ⟨parent, hparent, hdir⟩ := hw.parent
  unfold temporaryPath at h
  rw [hw.name, hparent] at h
  cases h
  exact ⟨parent, hparent, hdir, beside_join rfl rfl
    (isPlainName_temporaryName (Path.isPlainName_of_fileName? hw.name) _ _)⟩

/-- What a step may come to: it touches the temporary file of the writer alone, or it puts what the
writer has written in the place of the target. -/
inductive Writer.Moves (w : Writer) (dir : Location) (n : List Char) (t : FileTree)
    (phase : Phase) : Phase × FileTree → Prop
  | own {phase' : Phase} {t' : FileTree} (touches : Touches (w.place dir n) t t')
      (owns : w.Owns dir n t' phase') (kept : phase' = .renamed → phase = .renamed) :
      Moves w dir n t phase (phase', t')
  | rename {t' : FileTree} {runnable : Bool} (new : phase ≠ .renamed)
      (touches : Touches (w.place dir n) t t') (vacant : t'.get? (dir ++ [n]) ≠ some .directory) :
      Moves w dir n t phase (.renamed, t'.put (dir ++ [n]) (.file w.content runnable))

/-- An operation that fails touches nothing. -/
theorem Writer.moves_attempt {temporary : Path} {next : Phase} {done : Except IoError FileTree}
    (htemporary : temporaryPath w.target w.process w.write = .ok temporary)
    (h : ∀ t', done = .ok t' → w.Moves dir n t phase (next, t')) :
    w.Moves dir n t phase (attempt fault t temporary next done) := by
  have hfailing : w.Moves dir n t phase (.failing temporary, t) :=
    .own (.inl rfl) htemporary fun h => by cases h
  cases fault with
  | some e => exact hfailing
  | none =>
      cases done with
      | error e => exact hfailing
      | ok t' => exact h t' rfl

/-- **What one step does.** -/
theorem Writer.moves_step (hw : WritesTo t₀ dir n w) (hways : SameWaysBut (dir ++ [n]) t₀ t)
    (hlink : ∀ target, t.get? (w.place dir n) ≠ some (.link target))
    (howns : w.Owns dir n t phase) (fault : Option IoError) :
    w.Moves dir n t phase (w.step fault t phase) := by
  have hm := isPlainName_temporaryName (Path.isPlainName_of_fileName? hw.name) w.process w.write
  have hbare : t.get? (w.place dir n) ≠ some .directory → t.IsBare (w.place dir n) :=
    fun h => ⟨h, hlink⟩
  cases phase with
  | renamed => exact .own (.inl rfl) trivial fun _ => rfl
  | failed => exact .own (.inl rfl) trivial fun h => h
  | failing temporary =>
      obtain ⟨parent, -, hdir, hbeside⟩ := hw.exists_beside howns
      refine .own ?_ trivial fun h => by cases h
      rcases remove_of_sameWaysBut hdir hways hbeside hm with hsame | ⟨hget, herase⟩
      · exact .inl hsame
      · exact .inr ⟨hbare hget, .inl herase⟩
  | ready =>
      cases htemporary : temporaryPath w.target w.process w.write with
      | error e =>
          rw [step, htemporary]
          exact .own (.inl rfl) trivial fun h => by cases h
      | ok temporary =>
          rw [step_ready fault t htemporary]
          refine moves_attempt htemporary fun t' hcreate => ?_
          obtain ⟨parent, -, hdir, hbeside⟩ := hw.exists_beside htemporary
          obtain ⟨hget, runnable, rfl⟩ := create_of_sameWaysBut hdir hways hbeside hm hlink hcreate
          refine .own (.inr ⟨hbare hget, .inr ⟨_, _, rfl⟩⟩) ⟨htemporary, [], runnable, rfl, ?_⟩
            fun h => by cases h
          rw [place, get?_put (by simp), if_pos rfl, List.flatten_nil]
  | writing temporary left =>
      obtain ⟨htemporary, done, runnable, hpieces, hfile⟩ := howns
      cases left with
      | nil =>
          refine moves_attempt htemporary fun t' hsync => ?_
          cases hsync
          rw [List.append_nil] at hpieces
          subst hpieces
          exact .own (.inl rfl) ⟨htemporary, runnable, hfile⟩ fun h => by cases h
      | cons piece left =>
          refine moves_attempt htemporary fun t' happend => ?_
          obtain ⟨parent, -, hdir, hbeside⟩ := hw.exists_beside htemporary
          obtain ⟨runnable', rfl⟩ := append_of_sameWaysBut hdir hways hbeside hm hfile happend
          refine .own (.inr ⟨hbare (by simp [hfile]), .inr ⟨_, _, rfl⟩⟩)
            ⟨htemporary, done ++ [piece], runnable', by simpa using hpieces, ?_⟩
            fun h => by cases h
          rw [place, get?_put (by simp), if_pos rfl, List.flatten_append, List.flatten_singleton]
  | synced temporary =>
      obtain ⟨htemporary, runnable, hfile⟩ := howns
      refine moves_attempt htemporary fun t' hrename => ?_
      obtain ⟨parent, hparent, hdir, hbeside⟩ := hw.exists_beside htemporary
      obtain ⟨hover, rfl⟩ := rename_of_sameWaysBut hdir hways hbeside hm
        (beside_of_rename hrename hw.name hparent) (Path.isPlainName_of_fileName? hw.name)
        (Ne.symm (ne_temporaryName n _ _)) hfile hrename
      have htouches : Touches (w.place dir n) t (t.erase (w.place dir n)) :=
        .inr ⟨hbare (by simp [hfile]), .inl rfl⟩
      have hover' : (t.erase (w.place dir n)).get? (dir ++ [n]) ≠ some .directory := by
        rwa [htouches.get?_of_ne (w.place_ne dir n).symm]
      exact .rename (fun h => by cases h) htouches hover'

end Step

/-! ### Any number of steps -/

section Sound

variable {ι : Type} {w : ι → Writer} {t : FileTree} {dir : Location} {n : List Char} {s : State ι}

/-- What holds of a state at every moment: only the target may have changed the ways of the tree,
each writer owns its temporary file, and the target holds what it held or what the last writer that
renamed has written. -/
structure Sound (w : ι → Writer) (t : FileTree) (dir : Location) (n : List Char) (s : State ι) :
    Prop where
  ways : SameWaysBut (dir ++ [n]) t s.files
  owns : ∀ i, (w i).Owns dir n s.files (s.phase i)
  kept : s.renames = [] → s.files.get? (dir ++ [n]) = t.get? (dir ++ [n])
  written : ∀ i earlier, s.renames = i :: earlier → ∃ runnable,
    s.files.get? (dir ++ [n]) = some (.file (w i).content runnable)

theorem sound_start (w : ι → Writer) (t : FileTree) (dir : Location) (n : List Char) :
    Sound w t dir n ⟨t, fun _ => .ready, []⟩ where
  ways := .refl _ t
  owns := fun _ => trivial
  kept := fun _ => rfl
  written := fun _ _ h => by cases h

theorem IsRace.place_ne (h : IsRace w t dir n) {i j : ι} (hij : j ≠ i) :
    (w j).place dir n ≠ (w i).place dir n := by
  intro hplace
  obtain ⟨-, hprocess, hwrite⟩ :=
    temporaryName_inj.1 (List.singleton_inj.1 (List.append_cancel_left hplace))
  exact hij (h.distinct j i hprocess hwrite)

variable [DecidableEq ι]

/-- **What every turn preserves.** -/
theorem Sound.turn (hs : Sound w t dir n s) (h : IsRace w t dir n) (i : ι)
    (fault : Option IoError) : Sound w t dir n (s.turn w i fault) := by
  have hmoves := Writer.moves_step (h.writesTo i) hs.ways
    (fun target hlink => h.unlinked i target (hs.ways.of_link hlink)) (hs.owns i) fault
  have hplace := (w i).place_ne dir n
  rw [State.turn]
  generalize (w i).step fault s.files (s.phase i) = next at hmoves ⊢
  cases hmoves with
  | own touches owns kept =>
      rename_i phase' t'
      have htarget : t'.get? (dir ++ [n]) = s.files.get? (dir ++ [n]) :=
        touches.get?_of_ne hplace.symm
      have hrenames : ¬ (phase' = .renamed ∧ s.phase i ≠ .renamed) := fun ⟨hnow, hnot⟩ =>
        hnot (kept hnow)
      refine ⟨touches.sameWaysBut hplace hs.ways, fun j => ?_, ?_, ?_⟩
      · dsimp only
        by_cases hij : j = i
        · subst hij
          rwa [Function.update_self]
        · rw [Function.update_of_ne hij]
          exact (hs.owns j).congr (touches.get?_of_ne (h.place_ne hij))
      · simp only [if_neg hrenames, htarget]
        exact hs.kept
      · simp only [if_neg hrenames, htarget]
        exact hs.written
  | rename new touches vacant =>
      rename_i t' runnable
      have htarget : dir ++ [n] ≠ [] := by simp
      refine ⟨(touches.sameWaysBut hplace hs.ways).put vacant (.inl rfl) _ _, fun j => ?_, ?_, ?_⟩
      · dsimp only
        by_cases hij : j = i
        · subst hij
          rw [Function.update_self]
          trivial
        · rw [Function.update_of_ne hij]
          refine (hs.owns j).congr ?_
          rw [get?_put htarget, if_neg ((w j).place_ne dir n), touches.get?_of_ne (h.place_ne hij)]
      · rw [if_pos ⟨rfl, new⟩]
        exact fun hnil => by cases hnil
      · rw [if_pos ⟨rfl, new⟩]
        intro j earlier hcons
        obtain ⟨rfl, -⟩ := List.cons.inj hcons
        exact ⟨runnable, by rw [get?_put htarget, if_pos rfl]⟩

/-- **What every run preserves**: states are sound at every moment. -/
theorem sound_run (h : IsRace w t dir n) (turns : List (ι × Option IoError)) :
    Sound w t dir n (run w t turns) :=
  run_induct (sound_start w t dir n) (fun _ i fault hs => hs.turn h i fault) turns

/-- **A write never tears**: at every moment the target is as it was, if no writer has renamed a
file to it, or it holds all that the last writer has written that did. -/
theorem target_of_run (h : IsRace w t dir n) (turns : List (ι × Option IoError)) :
    ((run w t turns).renames = [] →
        (run w t turns).files.get? (dir ++ [n]) = t.get? (dir ++ [n])) ∧
      ∀ i earlier, (run w t turns).renames = i :: earlier → ∃ runnable,
        (run w t turns).files.get? (dir ++ [n]) = some (.file (w i).content runnable) :=
  ⟨(sound_run h turns).kept, (sound_run h turns).written⟩

-- A link under the name of a temporary file can lead to the target, which is torn then: of two
-- pieces it holds the first one only. So `IsRace.unlinked` cannot be left out.
example :
    (run (fun _ : Unit => ⟨[], ⟨['t']⟩, 7, 0, [[97], [98]]⟩)
        ((FileTree.empty.put [['t']] (.file [120] false)).put [temporaryName ['t'] 7 0]
          (.link ⟨['t']⟩))
        [((), none), ((), none)]).files.get? [['t']] =
      some (.file [97] false) := by
  decide +kernel

/-- Whoever reads the target sees what it held, or all that some writer has written. -/
theorem read_of_run (h : IsRace w t dir n) (hn : Path.IsPlainName n)
    (hlink : ∀ target, t.get? (dir ++ [n]) ≠ some (.link target)) {cwd : Location}
    {directory q : Path} (hdir : t.find cwd (directory.join ⟨['.']⟩) = .ok (dir, .directory))
    (hq : Beside directory n q) (turns : List (ι × Option IoError)) {content : Bytes}
    (hread : (run w t turns).files.read cwd q = .ok content) :
    (∃ runnable, t.get? (dir ++ [n]) = some (.file content runnable)) ∨
      ∃ i, (run w t turns).phase i = .renamed ∧ content = (w i).content := by
  have hs := sound_run h turns
  obtain ⟨l, runnable, hfind⟩ := exists_find_of_read hread
  have hplace := walk_of_sameWaysBut hdir hs.ways hq hn
    (fun _ target htarget => hlink target (hs.ways.of_link htarget)) (find_eq_ok_iff_walk.1 hfind)
  have hlocation : l = dir ++ [n] := by
    rw [← location_placeAt (run w t turns).files (dir ++ [n]), ← hplace]
    rfl
  have hget := get?_of_find hfind
  rw [hlocation] at hget
  cases hrenames : (run w t turns).renames with
  | nil => exact .inl ⟨runnable, by rw [← hs.kept hrenames, hget]⟩
  | cons i earlier =>
      obtain ⟨runnable', hwritten⟩ := hs.written i earlier hrenames
      rw [hget] at hwritten
      have hmem : i ∈ (run w t turns).renames := by
        rw [hrenames]
        exact List.mem_cons_self
      cases hwritten
      exact .inr ⟨i, (mem_renames_run w t turns i).1 hmem, rfl⟩

end Sound

/-! ### Two writers -/

/-- A tree with one file. -/
def oldTree : FileTree := FileTree.empty.put [['t']] (.file [120] false)

/-- Writers of two processes that spell the path of the file in two ways. -/
def twoWriters : Bool → Writer
  | true => ⟨[], ⟨['t']⟩, 7, 0, [[97], [98]]⟩
  | false => ⟨[], ⟨['/', 't']⟩, 8, 0, [[99]]⟩

/-- The second writer renames its file while the first one is writing; then the first one does. -/
def overtaking : List (Bool × Option IoError) :=
  [(true, none), (false, none), (true, none), (false, none), (false, none), (false, none),
    (true, none), (true, none), (true, none)]

theorem isRace_twoWriters : IsRace twoWriters oldTree [] ['t'] where
  writesTo i := by
    have hroot : oldTree.get? [] = some .directory := rfl
    cases i with
    | true =>
        refine ⟨by decide, ⟨[]⟩, by decide, find_eq_ok_iff.2 ⟨?_, ⟨linkLimit, ?_⟩, hroot⟩⟩
        · exact ⟨by decide, by decide, by decide⟩
        · exact .idle hroot rfl (.here _ _)
    | false =>
        refine ⟨by decide, ⟨['/']⟩, by decide, find_eq_ok_iff.2 ⟨?_, ⟨linkLimit, ?_⟩, hroot⟩⟩
        · exact ⟨by decide, by decide, by decide⟩
        · exact .idle hroot rfl (.idle hroot rfl (.here _ _))
  distinct i j hprocess := by
    cases i <;> cases j <;> first | exact fun _ => rfl | cases hprocess
  unlinked i target := by
    have hnone : ∀ i, oldTree.get? ((twoWriters i).place [] ['t']) = none := by decide +kernel
    rw [hnone]
    exact fun h => by cases h

theorem renames_overtaking :
    (run twoWriters oldTree (overtaking.take 3)).renames = [] ∧
      (run twoWriters oldTree (overtaking.take 7)).renames = [false] ∧
      (run twoWriters oldTree overtaking).renames = [true, false] := by
  decide +kernel

/-- The target at three moments: before anybody renames, and when either writer was the last to. -/
theorem target_of_run_overtaking :
    IsRace twoWriters oldTree [] ['t'] ∧
      (run twoWriters oldTree (overtaking.take 3)).files.get? [['t']] =
        some (.file [120] false) ∧
      (∃ runnable, (run twoWriters oldTree (overtaking.take 7)).files.get? [['t']] =
        some (.file [99] runnable)) ∧
      ∃ runnable, (run twoWriters oldTree overtaking).files.get? [['t']] =
        some (.file [97, 98] runnable) := by
  obtain ⟨hnobody, hsecond, hfirst⟩ := renames_overtaking
  exact ⟨isRace_twoWriters, (target_of_run isRace_twoWriters _).1 hnobody,
    (target_of_run isRace_twoWriters _).2 false _ hsecond,
    (target_of_run isRace_twoWriters _).2 true _ hfirst⟩

end Racing

end StandardsGate
