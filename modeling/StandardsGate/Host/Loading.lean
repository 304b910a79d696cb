import StandardsGate.Host.FileTree

/-!
Taking files into a tree, and finding those that a run has changed.

Main definitions:

* `FileTree.place` — puts a file at a path, with the directories on its way;
* `FileTree.filesBeyond` — the files that a tree does not share with another one.
-/

namespace StandardsGate.FileTree

/-- Puts a directory at an absolute path, with those on its way. -/
def placeDirectory (t : FileTree) (p : Path) : FileTree := (t.makeDirectories [] p).1

/-- Puts a file at an absolute path, with the directories on its way. -/
def place (t : FileTree) (p : Path) (content : Bytes) : FileTree :=
  let t := (p.parent?.map t.placeDirectory).getD t
  match t.create [] p content with
  | .ok t => t
  | .error _ => t

/-- The files of a tree that differ from those of another tree. -/
def filesBeyond (t before : FileTree) : List (Path × Bytes) :=
  t.entries.entries.filterMap fun (l, e) =>
    match e with
    | .file content _ => if before.get? l = some e then none else some (l.path, content)
    | _ => none

end StandardsGate.FileTree
