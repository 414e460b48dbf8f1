import LogViewer.RuleFile

/-!
# Where rules are saved

Rules are saved in memory or in a file. Saving in memory cannot fail; saving in a file turns what
the system refuses into a warning, and fails only for a path that can be the path of no file and for
a text that has no bytes.

## Main definitions

- `Storage`: the two places
- `Storage.load`, `Storage.save`
-/

namespace LogViewer

/-- Where the saved text is. -/
inductive Storage where
  | memory (text : Text)
  | file (path : Path)
deriving DecidableEq

namespace Storage

/-- The saved text, with the warnings on the way. -/
def load (s : Storage) (d : Disk) : RuleFile.Loaded :=
  match s with
  | memory text => ⟨[], .ok text⟩
  | file path => RuleFile.load d path

/-- What saving comes to. -/
structure Saved where
  storage : Storage
  disk : Disk
  warnings : List Text
  result : Except RuleFile.SaveFault Unit

/-- Saves a text. -/
def save (s : Storage) (d : Disk) (text : Text) : Saved :=
  match s with
  | memory _ => ⟨memory text, d, [], .ok ()⟩
  | file path =>
    let (d, result) := RuleFile.save d path text
    match result with
    | .error (.refused e) =>
      ⟨s, d, ["could not save filters to " ++ path.text ++ ": " ++ e.message], .ok ()⟩
    | result => ⟨s, d, [], result⟩

end Storage

end LogViewer
