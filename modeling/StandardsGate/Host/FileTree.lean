import StandardsGate.Host.OsError
import StandardsGate.OrderedMap
import StandardsGate.Path
import StandardsGate.Text.Utf8

/-!
A tree of files, directories and symbolic links.

Every entry has a location, the names on the way from the root. A path is looked up from a working
directory; the links on its way are followed, forty of them at most.

Main definitions:

* `FileTree` — the entries by location;
* `FileTree.walk` — where a path leads;
* `FileTree.read`, `FileTree.create`, `FileTree.append`, `FileTree.rename`, `FileTree.remove` —
  what can be done with files;
* `FileTree.makeDirectory`, `FileTree.makeDirectories` — what can be done with directories.
-/

namespace StandardsGate

/-- The content of a file. -/
abbrev Bytes := List UInt8

/-- The names on the way from the root. -/
abbrev Location := List (List Char)

/-- The absolute path of a location. -/
def Location.path (l : Location) : Path :=
  if l.isEmpty then ⟨['/']⟩ else ⟨l.flatMap fun n => '/' :: n⟩

/-- What stands at a location. -/
inductive Entry
  | file (content : Bytes) (runnable : Bool)
  | directory
  | link (target : Path)
deriving DecidableEq, Repr, Inhabited

/-- Entries by location. The root is a directory and has no entry. -/
structure FileTree where
  entries : OrderedMap Location Entry
deriving Inhabited

namespace FileTree

/-- The tree that holds nothing but its root. -/
def empty : FileTree := ⟨∅⟩

/-- What stands at a location. -/
def get? (t : FileTree) (l : Location) : Option Entry :=
  if l.isEmpty then some .directory else t.entries.get? l

/-- Puts an entry at a location. -/
def put (t : FileTree) (l : Location) (e : Entry) : FileTree := ⟨t.entries.insert l e⟩

/-- Takes the entry at a location away. -/
def erase (t : FileTree) (l : Location) : FileTree where
  entries.entries := t.entries.entries.filter (·.1 != l)
  entries.distinct := t.entries.distinct.sublist (List.filter_sublist.map _)

/-- The names in a directory. -/
def names (t : FileTree) (l : Location) : List (List Char) :=
  t.entries.keys.filterMap fun k => if k.dropLast = l then k.getLast? else none

/-! ### Looking up paths -/

/-- How many links are followed on the way to one entry. -/
def linkLimit : Nat := 40

/-- How many bytes a name may have. -/
def nameLimit : Nat := 255

/-- How many bytes a path may have. -/
def pathLimit : Nat := 4095

/-- Where a path leads: to an entry, or to a free place in a directory. -/
inductive Place
  | taken (l : Location) (e : Entry)
  | free (l : Location)
deriving Repr

/-- The number of bytes of a name. -/
def byteCount (n : List Char) : Nat := n.foldr (fun c size => c.utf8Size + size) 0

/-- Where a link leads to from the directory that holds it. -/
def linkStart (l : Location) (target : Path) : Location := if target.isAbsolute then [] else l

/-- Walks on from a location along segments; `follow` walks on where a link leads. A link is followed
unless it is the last segment and `followLast` is false. -/
def walkWith (t : FileTree) (followLast : Bool)
    (follow : Location → List (List Char) → Except OsError Place) (l : Location) :
    List (List Char) → Except OsError Place
  | [] =>
    match t.get? l with
    | some e => .ok (.taken l e)
    | none => .error .notFound
  | s :: rest =>
    if t.get? l ≠ some .directory then .error .notDirectory
    else if Path.isIdle s then walkWith t followLast follow l rest
    else if s = ['.', '.'] then walkWith t followLast follow l.dropLast rest
    else if nameLimit < byteCount s then .error .nameTooLong
    else match t.get? (l ++ [s]) with
      | none => if rest.all List.isEmpty then .ok (.free (l ++ [s])) else .error .notFound
      | some (.link target) =>
        if rest.isEmpty && !followLast then .ok (.taken (l ++ [s]) (.link target))
        else follow (linkStart l target) (Text.splitOn '/' target.chars ++ rest)
      | some _ => walkWith t followLast follow (l ++ [s]) rest

/-- Walks on from a location along segments, following so many links at most. -/
def walkFrom (t : FileTree) (followLast : Bool) :
    Nat → Location → List (List Char) → Except OsError Place
  | 0 => t.walkWith followLast fun _ _ => .error .tooManyLinks
  | links + 1 => t.walkWith followLast (walkFrom t followLast links)

/-- Where a path leads from a working directory. -/
def walk (t : FileTree) (followLast : Bool) (cwd : Location) (p : Path) : Except IoError Place :=
  if p.chars.contains '\x00' then .error .nullInPath
  else if p.chars.isEmpty then .error (.os .notFound)
  else if pathLimit < byteCount p.chars then .error (.os .nameTooLong)
  else
    (t.walkFrom followLast linkLimit (if p.isAbsolute then [] else cwd)
      (Text.splitOn '/' p.chars)).mapError .os

/-- The entry that a path leads to, and its location. -/
def find (t : FileTree) (cwd : Location) (p : Path) : Except IoError (Location × Entry) := do
  match ← t.walk true cwd p with
  | .taken l e => return (l, e)
  | .free _ => throw (.os .notFound)

/-- Whether a path leads to an entry. -/
def exists? (t : FileTree) (cwd : Location) (p : Path) : Bool := (t.find cwd p).isOk

/-- Whether a path leads to a file. -/
def isFile (t : FileTree) (cwd : Location) (p : Path) : Bool :=
  match t.find cwd p with
  | .ok (_, .file ..) => true
  | _ => false

/-- Whether a path leads to a directory. -/
def isDirectory (t : FileTree) (cwd : Location) (p : Path) : Bool :=
  match t.find cwd p with
  | .ok (_, .directory) => true
  | _ => false

/-- The path without links, dots and ways up that leads where a path leads. -/
def canonical? (t : FileTree) (cwd : Location) (p : Path) : Option Path :=
  match t.find cwd p with
  | .ok (l, _) => some l.path
  | .error _ => none

/-- The length of the longest target of a link. -/
def longestTarget (t : FileTree) : Nat :=
  t.entries.entries.foldl (fun n e => match e.2 with
    | .link target => max n target.chars.length
    | _ => n) 0

/-- How long the path of a place can be that some path leads to. -/
def longestPlace (t : FileTree) (cwd : Location) : Nat :=
  cwd.path.chars.length + (pathLimit + 1) + linkLimit * (t.longestTarget + 1)

/-! ### Files -/

/-- The content of the file that a path leads to. -/
def read (t : FileTree) (cwd : Location) (p : Path) : Except IoError Bytes := do
  match ← t.find cwd p with
  | (_, .file content _) => return content
  | _ => throw (.os .isDirectory)

/-- The directory part of a path that has to end in a name, and whether it does. -/
def directoryPart (p : Path) : List (List Char) × Bool :=
  let segments := Text.splitOn '/' p.chars
  let kept := (segments.reverse.dropWhile List.isEmpty).reverse
  match kept.getLast? with
  | some s => (kept.dropLast, kept.length = segments.length && s != ['.'] && s != ['.', '.'])
  | none => ([], false)

/-- The place of a file to be written. The way there may end in a slash behind a link, and leads to a
directory only then. -/
def writable (t : FileTree) (cwd : Location) (p : Path) : Except IoError Place := do
  let (segments, named) := directoryPart p
  if !named && !p.chars.isEmpty then
    discard (t.walk true cwd (.ofSegments [] (segments ++ [['.']])))
    throw (.os .isDirectory)
  match ← t.walk true cwd p with
  | .taken l (.file content runnable) => return .taken l (.file content runnable)
  | .taken .. => throw (.os .isDirectory)
  | .free l =>
    if (t.put l (.file [] false)).isFile cwd p then return .free l else throw (.os .isDirectory)

/-- Creates a file with some content; the content of a file that exists is replaced. -/
def create (t : FileTree) (cwd : Location) (p : Path) (content : Bytes) :
    Except IoError FileTree := do
  match ← t.writable cwd p with
  | .taken l (.file _ runnable) => return t.put l (.file content runnable)
  | .taken l _ => return t.put l (.file content false)
  | .free l => return t.put l (.file content false)

/-- Adds to the end of a file, which is created if there is none. -/
def append (t : FileTree) (cwd : Location) (p : Path) (content : Bytes) :
    Except IoError FileTree := do
  match ← t.writable cwd p with
  | .taken l (.file before runnable) => return t.put l (.file (before ++ content) runnable)
  | .taken l _ => return t.put l (.file content false)
  | .free l => return t.put l (.file content false)

/-- Moves the file at one path to another path, in the place of a file or link that stands there. -/
def rename (t : FileTree) (cwd : Location) (source target : Path) : Except IoError FileTree := do
  match ← t.walk false cwd source with
  | .free _ => throw (.os .notFound)
  | .taken l e =>
    let last := (Text.splitOn '/' target.chars).getLast?
    if last = some ['.'] || last = some ['.', '.'] then
      discard (t.find cwd target)
      throw (.os .busy)
    else if last = some [] && !target.chars.isEmpty then throw (.os .notDirectory)
    else
      match ← t.walk false cwd target with
      | .taken _ .directory => throw (.os .isDirectory)
      | .taken l' _ => return if l = l' then t else (t.erase l).put l' e
      | .free l' => return (t.erase l).put l' e

/-- Takes away the file or link at a path, if there is one. -/
def remove (t : FileTree) (cwd : Location) (p : Path) : FileTree :=
  match t.walk false cwd p with
  | .ok (.taken _ .directory) => t
  | .ok (.taken l _) => t.erase l
  | _ => t

/-! ### Directories -/

/-- Creates one directory in a directory that exists. -/
def makeDirectory (t : FileTree) (cwd : Location) (p : Path) : Except IoError FileTree := do
  match ← t.walk false cwd p with
  | .taken .. => throw (.os .alreadyExists)
  | .free l => return t.put l .directory

/-- Creates one directory, unless it exists already. -/
def ensureDirectory (t : FileTree) (cwd : Location) (p : Path) : Except IoError FileTree :=
  match t.makeDirectory cwd p with
  | .ok t' => .ok t'
  | .error e => if t.isDirectory cwd p then .ok t else .error e

/-- Creates a directory and those on the way to it that are missing. The tree that comes with a
failure holds those that could be created. -/
def makeDirectories (t : FileTree) (cwd : Location) (p : Path) : FileTree × Except IoError Unit :=
  if p.chars.isEmpty then (t, .ok ())
  else match t.makeDirectory cwd p with
    | .ok t' => (t', .ok ())
    | .error (.os .notFound) =>
      match _h : p.parent? with
      | none => (t, .error (.os .notFound))
      | some q =>
        match makeDirectories t cwd q with
        | (t', .error e) => (t', .error e)
        | (t', .ok ()) =>
          match t'.ensureDirectory cwd p with
          | .ok t'' => (t'', .ok ())
          | .error e => (t', .error e)
    | .error e => (t, if t.isDirectory cwd p then .ok () else .error e)
termination_by p.chars.length
decreasing_by exact Path.length_parent_lt _h

end FileTree

end StandardsGate
