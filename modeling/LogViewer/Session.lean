import LogViewer.CommandLine
import LogViewer.Feed
import LogViewer.Screen.Keys

/-!
# Sessions

A session begins with the command line and what the program finds: the files, the environment, the
standard input and the log of a device. It opens the panel with the saved rules, opens the source of
messages, and shows the screen while the source is read to its end.

## Main definitions

- `Surroundings`: what the program finds
- `Ending`: why there is no session
- `Source`, `openSource`: where messages come from
- `Session.start`: from the command line to the screen
- `Session.ingest`: reading the source
-/

namespace LogViewer

open LogViewer.CommandLine (Options)

/-! ## §1 Surroundings -/

/-- What the program finds when it is started. -/
structure Surroundings where
  disk : Disk
  /-- The home folder of the user. -/
  home : Text
  /-- The path of the file of saved rules, if the environment gives one. -/
  filters : Option Text
  input : Text
  /-- What the program that reads a device's log writes, if there is that program. -/
  device : Option ByteArray

/-- Why there is no session. -/
inductive Ending where
  | stop (s : CommandLine.Stop)
  /-- The program ends with a message. -/
  | message (text : Text)
  | start (e : Panel.StartFault)
  | screen (e : Screen.Fault)
deriving DecidableEq, Repr

/-! ## §2 Sources -/

/-- How many messages of a file come in at once. -/
def fileBatch : Nat := 2000

/-- Where messages come from. -/
structure Source where
  name : Text
  lines : List Text
  /-- How many messages come in at once. -/
  batch : Nat
  /-- The command that was run for it. -/
  command : Option (List Text)

/-- The lines of bytes that come from outside. Faulty bytes are replaced, and every line end reads
as a line feed. -/
def linesOfBytes (bytes : ByteArray) : List Text :=
  Text.linesKept (Text.ofList (Text.newlinesUnified (Text.Utf8.decodeReplacing bytes).toList))

/-- Whether the text of a path can lead to a file: it does not end in a step that only a folder
has. -/
def mayBeFile (path : Text) : Bool :=
  let steps := Path.cut path.toList []
  steps.getLast?.all Path.leads

/-- The part of a path after its last slash. -/
def baseName (path : Text) : Text :=
  Text.ofList (path.toList.reverse.takeWhile (· != ('/' : CodePoint))).reverse

/-- The log of a device. -/
def deviceSource (w : Surroundings) (serial : Option Text) : Except Ending Source :=
  match w.device with
  | none => .error (.message "Error: could not run adb: [Errno 2] No such file or directory: 'adb'")
  | some bytes =>
    let name := Text.trimmed ("adb " ++ serial.getD "")
    .ok ⟨name, linesOfBytes bytes, 1, some (adbCommand serial)⟩

/-- A file. -/
def fileSource (w : Surroundings) (path : Text) : Except Ending Source :=
  match if mayBeFile path then (w.disk.read (.ofText path)).toOption else none with
  | some bytes => .ok ⟨baseName path, linesOfBytes bytes, fileBatch, none⟩
  | none => .error (.message ("Error: " ++ Text.quoted path ++ " not found."))

/-- Opens the source that the options ask for. -/
def openSource (w : Surroundings) (o : Options) : Except Ending Source :=
  if o.adb then deviceSource w o.serial
  else
    let path := o.file.getD ""
    if path = "-" then .ok ⟨"(stdin)", Text.linesKept w.input, 1, none⟩
    else fileSource w path

namespace Session

/-! ## §3 Start -/

/-- The path of the file of saved rules. -/
def filtersPath (w : Surroundings) (o : Options) : Path :=
  match o.filters with
  | some path =>
    if path.isEmpty then RuleFile.defaultPath w.filters w.home else .ofText path
  | none => RuleFile.defaultPath w.filters w.home

/-- What a start comes to: warnings on the way, the source if it was opened, and the screen. -/
structure Started where
  warnings : List Text
  source : Option Source
  result : Except Ending Screen

/-- Shows a panel, with the level and the application that the options ask for. -/
def shown (panel : Panel) (source : Source) (o : Options) : Except Ending Screen := do
  let screen := (Screen.ofPanel panel source.name true).attach
  let (screen, outcome) :=
    if o.level = .verbose then (screen, .ok ()) else screen.applySearch o.level
  outcome.mapError .screen
  match o.app with
  | none => return screen
  | some app =>
    if app.isEmpty then return screen
    else
      let (panel, _) ← (screen.panel.selectApp app).mapError fun e => .screen (.rule e)
      return { screen with panel }

/-- Starts a session with options. -/
def startWith (w : Surroundings) (o : Options) : Started :=
  let panel := Panel.start o.maximum (.file (filtersPath w o)) w.disk
  match panel.result with
  | .error e => ⟨panel.warnings, none, .error (.start e)⟩
  | .ok p =>
    match openSource w o with
    | .error e => ⟨panel.warnings, none, .error e⟩
    | .ok source => ⟨panel.warnings, some source, shown p source o⟩

/-- Starts a session with a command line. -/
def start (w : Surroundings) (args : List Text) : Started :=
  match CommandLine.parse args with
  | .error stop => ⟨[], none, .error (.stop stop)⟩
  | .ok o => startWith w o

/-! ## §4 Reading the source -/

/-- The warning about a source that cannot be read to its end. -/
def brokenWarning (e : Text.TooManyDigits) : Text := "logcat stream failed: " ++ e.message

/-- The status when the source is read. -/
def endStatus : Text := "end of stream"

/-- Takes in all that a source delivers. -/
def ingest (s : Screen) (source : Source) : Screen :=
  let d := deliver source.batch .empty [] source.lines
  let panel := d.batches.foldl Panel.receive s.panel
  let broken := (d.fault.map brokenWarning).toList
  { s with panel := { panel with warnings := panel.warnings ++ broken } }

/-- Takes in a source, refreshes the screen, and tells that the source is read. -/
def settle (s : Screen) (source : Source) : Screen :=
  ((ingest s source).runTasks.1).setStatus endStatus

end Session

end LogViewer
