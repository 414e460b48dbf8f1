import LogViewer.Files.Disk
import LogViewer.Text.Lines
import LogViewer.Text.Utf8

/-!
# The file of saved rules

Saved rules are kept in one file. Loading takes a file that is missing as empty, and a file that the
system refuses to read as empty with a warning. Saving makes the folders above the file, writes a
temporary file beside it, and moves that in place of the old file, so that the old file stays whole
until the new one is. What the system refuses on the way is a warning too.

## Main definitions

- `defaultPath`: where the file is unless told otherwise
- `load`, `LoadFault`: reading the file
- `save`, `SaveFault`: writing the file
-/

namespace LogViewer.RuleFile

/-! ## §1 Where the file is -/

/-- The home folder as it counts: slashes at the end do not, and nothing is the root. -/
def homePath (home : Text) : Path :=
  let kept := (home.toList.reverse.dropWhile (· == ('/' : CodePoint))).reverse
  .ofText (if kept.isEmpty then "/" else Text.ofList kept)

/-- The path of the file: the given one unless it is empty, otherwise one below the home folder. -/
def defaultPath (given : Option Text) (home : Text) : Path :=
  let inHome := (homePath home).join (.ofText ".config/logcatpanel/filters.jsonl")
  match given with
  | some path => if path.isEmpty then inHome else .ofText path
  | none => inHome

/-! ## §2 Loading -/

/-- Why loading fails. -/
inductive LoadFault where
  | path (fault : Path.Fault)
  | encoding (e : Text.Utf8.Fault)
deriving DecidableEq, Repr

/-- The text of the complaint. -/
def LoadFault.message : LoadFault → Text
  | path fault => fault.message
  | encoding e => e.message

/-- What loading gives, with the warnings on the way. -/
structure Loaded where
  warnings : List Text
  result : Except LoadFault Text

/-- The text of a file's content, where all line ends read as line feeds. -/
def textOf (content : ByteArray) : Except LoadFault Text :=
  match Text.Utf8.decode content with
  | .ok text => .ok (Text.ofList (Text.newlinesUnified text.toList))
  | .error e => .error (.encoding e)

/-- Loads the file. -/
def load (d : Disk) (p : Path) : Loaded :=
  match p.fault? with
  | some fault => ⟨[], .error (.path fault)⟩
  | none =>
    match d.read p with
    | .ok content => ⟨[], textOf content⟩
    | .error .notFound => ⟨[], .ok ""⟩
    | .error fault =>
      let e : FileError := ⟨fault, [p.text]⟩
      ⟨["could not read filters from " ++ p.text ++ ": " ++ e.message], .ok ""⟩

/-! ## §3 Saving -/

/-- Why saving fails. -/
inductive SaveFault where
  /-- The system refuses a step. -/
  | refused (e : FileError)
  | namelessPath (text : Text)
  /-- No file can have the path, or no folder that of the folder above. -/
  | path (fault : Path.Fault)
  /-- The text has no bytes. -/
  | unencodable (e : Text.Utf8.Unencodable)
deriving DecidableEq, Repr

/-- The text of the complaint. -/
def SaveFault.message : SaveFault → Text
  | refused e => e.message
  | namelessPath text => "PosixPath(" ++ Text.quoted text ++ ") has an empty name"
  | path fault => fault.message
  | unencodable e => e.message

/-- The temporary file beside a file. -/
def temporary (p : Path) : Path := p.sibling ".tmp"

/-- What is written for a text: the text ends with a line feed unless it is empty. -/
def written (text : Text) : Text :=
  if text.isEmpty then "" else text ++ "\n"

/-- Writes the temporary file. It is opened before the text is turned into bytes, so a text that has
none leaves it empty. -/
def writeTemporary (d : Disk) (p : Path) (text : Text) : Disk × Except SaveFault Unit :=
  let content := Text.Utf8.encode (written text)
  match d.write (temporary p) (content.toOption.getD .empty) with
  | .error fault => (d, .error (.refused ⟨fault, [(temporary p).text]⟩))
  | .ok d => (d, (content.map fun _ => ()).mapError .unencodable)

/-- Writes the temporary file and moves it in place. -/
def replace (d : Disk) (p : Path) (text : Text) : Disk × Except SaveFault Unit :=
  match writeTemporary d p text with
  | (d, .error e) => (d, .error e)
  | (d, .ok ()) =>
    match d.rename (temporary p) p with
    | .error fault => (d, .error (.refused ⟨fault, [(temporary p).text, p.text]⟩))
    | .ok d => (d, .ok ())

/-- Saves a text. -/
def save (d : Disk) (p : Path) (text : Text) : Disk × Except SaveFault Unit :=
  match p.parent.fault? with
  | some fault => (d, .error (.path fault))
  | none =>
    match d.makeFolders p.parent with
    | (d, .error e) => (d, .error (.refused e))
    | (d, .ok ()) =>
      if p.name.isEmpty then (d, .error (.namelessPath p.text))
      else
        match p.fault? with
        | some fault => (d, .error (.path fault))
        | none => replace d p text

end LogViewer.RuleFile
