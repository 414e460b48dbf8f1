import LogViewer.Screen.Console
import LogViewer.Session

/-!
# The command line program

Collects what a session needs from the system, starts it, and shows the screen on a console of
lines. Files that a session changes are written when it is over. -/

namespace LogViewer.Program

/-- The help text. -/
def helpText : String :=
  "usage: logcatpanel [-h] (-f PATH | -a) [-s SERIAL] [--max-messages N] [--filters PATH] "
    ++ "[--level LEVEL] [--app NAME]"

/-- All that is left of a stream. -/
partial def readAll (input : IO.FS.Stream) (text : Text) : IO Text := do
  let line ← input.getLine
  if line.isEmpty then return text else readAll input (text ++ line)

/-- The place of a path, where double dots are taken back at once. -/
def placeOf (working : Place) (path : Path) : Place :=
  path.steps.foldl (fun place step =>
    if step = (".." : Text) then place.dropLast else place ++ [step])
    (if path.slashes = 0 then working else [])

/-- Adds the folders that lead to a place. -/
def withFolders (d : Disk) (place : Place) : Disk :=
  (List.range place.length).foldl (fun d n => d.put (place.take (n + 1)) .folder) d

/-- Adds what the system has at a path. -/
def withPath (d : Disk) (path : Path) : IO Disk := do
  let place := placeOf d.working path
  try
    let content ← IO.FS.readBinFile path.text.printed
    return (withFolders d place.dropLast).put place (.file content)
  catch
    | .permissionDenied .. => return { d with refusals := ((.read, path), .denied) :: d.refusals }
    | _ => return d

/-- What a session needs from the system. -/
def collect (o : CommandLine.Options) : IO Surroundings := do
  let working := (Path.ofText (← IO.currentDir).toString).steps
  let home := ((← IO.getEnv "HOME").map Text.ofString).getD ""
  let filters := (← IO.getEnv "LOGCATPANEL_FILTERS").map Text.ofString
  let input ← if o.file = some ("-" : Text) then readAll (← IO.getStdin) "" else pure ""
  let bare : Surroundings := ⟨withFolders ⟨[], working, []⟩ working, home, filters, input, none⟩
  let disk ← withPath bare.disk (Session.filtersPath bare o)
  let disk ← withPath disk (.ofText (o.file.getD ""))
  return { bare with disk }

/-- Writes the files that are new or changed. -/
def writeBack (before after : Disk) : IO Unit := do
  for (place, entry) in after.entries do
    match entry with
    | .folder => pure ()
    | .file content =>
      unless before.entry? place = some entry do
        IO.FS.createDirAll (⟨1, place.dropLast⟩ : Path).text.printed
        IO.FS.writeBinFile (⟨1, place⟩ : Path).text.printed content

/-- Tells the warnings of a screen after the first ones. -/
def tell (s : Screen) (known : Nat) : IO Unit := do
  for w in s.panel.warnings.drop known do IO.eprintln (warningLine w).printed

/-- Shows the screen and handles lines until the program is left. -/
partial def loop (input : IO.FS.Stream) (s : Screen) : IO Screen := do
  for line in s.drawnLines do IO.println line.printed
  let line ← input.getLine
  if line.isEmpty then return s
  let stamp := toString (← IO.monoMsNow)
  let line := (Text.ofList (LogLine.withoutLineEnd (Text.ofString line).toList)).string
  let (next, effect) := s.handleLine line stamp
  tell next s.panel.warnings.length
  match effect with
  | .ok .goOn => loop input next
  | .ok .quit => return next
  | .error e =>
    IO.eprintln e.message.printed
    return next

/-- Reports why there is no session; gives the exit status. -/
def report (e : Ending) : IO UInt32 := do
  match e with
  | .stop .help =>
    IO.println helpText
    return 0
  | .stop (.refused m) =>
    IO.eprintln (CommandLine.refusalLine m).printed
    return 2
  | .message m => IO.eprintln m.printed
  | .start e => IO.eprintln e.message.printed
  | .screen e => IO.eprintln e.message.printed
  return 1

/-- Runs a session with options. -/
def run (o : CommandLine.Options) : IO UInt32 := do
  let around ← collect o
  let started := Session.startWith around o
  for w in started.warnings do IO.eprintln (warningLine w).printed
  match started.result, started.source with
  | .ok s, some source =>
    let s := Session.settle s source
    tell s started.warnings.length
    let last ← loop (← IO.getStdin) s
    writeBack around.disk last.panel.disk
    return 0
  | .error e, _ => report e
  | .ok _, none => return 1

end LogViewer.Program

/-- Runs the program. -/
def main (args : List String) : IO UInt32 := do
  match LogViewer.CommandLine.parse (args.map LogViewer.Text.ofString) with
  | .error stop => LogViewer.Program.report (.stop stop)
  | .ok o => LogViewer.Program.run o
