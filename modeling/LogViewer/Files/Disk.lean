import LogViewer.Files.Path
import LogViewer.Text.Quoted

/-!
# Files and folders

The part of a file system that the program works with: the files and folders below the root, with
the working folder, which may have been removed in the meantime. The operations fail as the system
calls do, and say which path they failed on. Besides what stands in the way in the tree, the system
may refuse a call for reasons of its own, as for want of a permission or of space.

## Main definitions

- `Disk`: the files and folders
- `FileFault`, `FileError`: why an operation failed
- `Disk.allow`: whether the system refuses a call for reasons of its own
- `Disk.read`, `Disk.write`, `Disk.makeFolder`, `Disk.makeFolders`, `Disk.rename`
-/

namespace LogViewer

/-! ## §1 Failures -/

/-- Why the system refuses an operation. -/
inductive FileFault where
  | notFound
  | busy
  | alreadyThere
  | notFolder
  | isFolder
  | nameTooLong
  /-- A permission is missing. -/
  | denied
  /-- Any other reason, as a device that is full or faulty. -/
  | other (number : Nat) (words : Text)
deriving DecidableEq, Repr

/-- The number of a fault. -/
def FileFault.number : FileFault → Nat
  | notFound => 2
  | busy => 16
  | alreadyThere => 17
  | notFolder => 20
  | isFolder => 21
  | nameTooLong => 36
  | denied => 13
  | other number _ => number

/-- The words for a fault. -/
def FileFault.words : FileFault → Text
  | notFound => "No such file or directory"
  | busy => "Device or resource busy"
  | alreadyThere => "File exists"
  | notFolder => "Not a directory"
  | isFolder => "Is a directory"
  | nameTooLong => "File name too long"
  | denied => "Permission denied"
  | other _ words => words

/-- A fault with the paths that the operation was asked for. -/
structure FileError where
  fault : FileFault
  paths : List Text
deriving DecidableEq, Repr

/-- The text of the complaint. -/
def FileError.message (e : FileError) : Text :=
  let what := "[Errno " ++ toString e.fault.number ++ "] " ++ e.fault.words
  if e.paths.isEmpty then what
  else what ++ ": " ++ Text.intercalate " -> " (e.paths.map Text.quoted)

/-! ## §2 The tree -/

/-- The steps from the root to a file or folder. -/
abbrev Place := List Text

/-- What is at a place. -/
inductive Entry where
  | folder
  | file (content : ByteArray)

instance : DecidableEq Entry
  | .folder, .folder => isTrue rfl
  | .folder, .file _ => isFalse Entry.noConfusion
  | .file _, .folder => isFalse Entry.noConfusion
  | .file a, .file b =>
    match ByteArray.instDecidableEq a b with
    | isTrue h => isTrue (congrArg Entry.file h)
    | isFalse h => isFalse fun e => h (Entry.file.inj e)

/-- The calls of the system on files and folders. -/
inductive Call where
  | read
  | write
  | makeFolder
  | rename
deriving DecidableEq, Repr

/-- Files and folders. -/
structure Disk where
  /-- What is at places below the root; the first mention of a place counts. -/
  entries : List (Place × Entry)
  /-- The working folder, which need not exist any more. -/
  working : Place
  /-- The calls that the system refuses whatever the tree is like, with the path that is read, written or
  made. -/
  refusals : List ((Call × Path) × FileFault)
deriving DecidableEq

namespace Disk

/-- The empty tree, whose root is the working folder. -/
def empty : Disk := ⟨[], [], []⟩

/-- Lets a call through unless the system refuses it for reasons of its own. -/
def allow (d : Disk) (call : Call) (p : Path) : Except FileFault Unit :=
  match d.refusals.lookup (call, p) with
  | none => .ok ()
  | some fault => .error fault

/-- What is at a place. -/
def entry? (d : Disk) (p : Place) : Option Entry :=
  if p = [] then some .folder else d.entries.lookup p

/-- Puts something at a place. -/
def put (d : Disk) (p : Place) (e : Entry) : Disk :=
  { d with entries := (p, e) :: d.entries.filter (·.1 != p) }

/-- Removes what is at a place. -/
def erase (d : Disk) (p : Place) : Disk :=
  { d with entries := d.entries.filter (·.1 != p) }

/-- Removes a folder with all that is in it. -/
def eraseAll (d : Disk) (p : Place) : Disk :=
  { d with entries := d.entries.filter fun e => !p.isPrefixOf e.1 }

/-! ## §3 Finding places -/

/-- The greatest length of a step in bytes. -/
def stepLimit : Nat := 255

/-- The greatest length of a path in bytes. -/
def pathLimit : Nat := 4095

/-- Walks some steps from a folder to a folder. -/
def walk (d : Disk) (here : Place) : List Text → Except FileFault Place
  | [] => .ok here
  | step :: rest =>
    if step = ".." then d.walk here.dropLast rest
    else if stepLimit < step.byteSize then .error .nameTooLong
    else
      match d.entry? (here ++ [step]) with
      | some .folder => d.walk (here ++ [step]) rest
      | some (.file _) => .error .notFolder
      | none => .error .notFound

/-- What a path leads to: a folder by the steps alone, or a name in a folder. -/
inductive Target where
  | folder (place : Place)
  | named (place : Place) (name : Text)
deriving DecidableEq, Repr

/-- Where the steps of a path begin. -/
def start (d : Disk) (p : Path) : Place :=
  if p.slashes = 0 then d.working else []

/-- What a path leads to. -/
def target (d : Disk) (p : Path) : Except FileFault Target :=
  if pathLimit < p.text.byteSize then .error .nameTooLong
  else if p.name = ".." ∨ p.steps = [] then (d.walk (d.start p) p.steps).map .folder
  else do
    let place ← d.walk (d.start p) p.parent.steps
    if stepLimit < p.name.byteSize then throw .nameTooLong
    return .named place p.name

/-- What is at the end of a path. -/
def find (d : Disk) (p : Path) : Except FileFault Entry := do
  match ← d.target p with
  | .folder _ => return .folder
  | .named place name =>
    match d.entry? (place ++ [name]) with
    | some e => return e
    | none => throw .notFound

/-- Whether a path leads to a folder. -/
def isFolder (d : Disk) (p : Path) : Bool :=
  match d.find p with
  | .ok .folder => true
  | _ => false

/-! ## §4 Operations -/

/-- The content of a file. -/
def read (d : Disk) (p : Path) : Except FileFault ByteArray := do
  d.allow .read p
  match ← d.find p with
  | .folder => throw .isFolder
  | .file content => return content

/-- Makes a new entry with a name in a folder, which must exist. -/
def create (d : Disk) (place : Place) (name : Text) (e : Entry) : Except FileFault Disk :=
  if d.entry? place = some .folder then .ok (d.put (place ++ [name]) e) else .error .notFound

/-- Writes a file, in place of the one that is there. -/
def write (d : Disk) (p : Path) (content : ByteArray) : Except FileFault Disk := do
  d.allow .write p
  match ← d.target p with
  | .folder _ => throw .isFolder
  | .named place name =>
    if d.entry? (place ++ [name]) = some .folder then throw .isFolder
    d.create place name (.file content)

/-- Makes a folder in a folder that is there. -/
def makeFolder (d : Disk) (p : Path) : Except FileFault Disk := do
  d.allow .makeFolder p
  match ← d.target p with
  | .folder _ => throw .alreadyThere
  | .named place name =>
    if (d.entry? (place ++ [name])).isSome then throw .alreadyThere
    d.create place name .folder

/-- What a refused folder comes to: nothing is wrong if the folder is there already. -/
def refusedFolder (d : Disk) (p : Path) (fault : FileFault) : Except FileError Unit :=
  if d.isFolder p then .ok () else .error ⟨fault, [p.text]⟩

/-- Makes a folder whose parent is there, unless it is there itself. -/
def ensureFolder (d : Disk) (p : Path) : Disk × Except FileError Unit :=
  match d.makeFolder p with
  | .ok d => (d, .ok ())
  | .error fault => (d, d.refusedFolder p fault)

/-- Makes a folder and all that lead to it, as far as they are missing. -/
def makeFolders (d : Disk) (p : Path) : Disk × Except FileError Unit :=
  match d.makeFolder p with
  | .ok d => (d, .ok ())
  | .error .notFound =>
    if _h : p.steps = [] then (d, d.refusedFolder p .notFound)
    else
      match d.makeFolders p.parent with
      | (d, .ok ()) => d.ensureFolder p
      | (d, .error e) => (d, .error e)
  | .error fault => (d, d.refusedFolder p fault)
termination_by p.steps.length
decreasing_by
  have := List.length_pos_iff.2 _h
  simp [Path.parent]
  omega

/-- Moves a file to another path, in place of the file that is there. -/
def rename (d : Disk) (source goal : Path) : Except FileFault Disk := do
  d.allow .rename goal
  match ← d.target source, ← d.target goal with
  | .named place name, .named place' name' =>
    match d.entry? (place ++ [name]) with
    | none => throw .notFound
    | some e =>
      if d.entry? (place' ++ [name']) = some .folder then throw .isFolder
      (d.erase (place ++ [name])).create place' name' e
  | _, _ => throw .busy

/-- The path of the working folder. -/
def workingPath (d : Disk) : Except FileFault Path :=
  if d.entry? d.working = some .folder then .ok ⟨1, d.working⟩ else .error .notFound

end Disk

end LogViewer
