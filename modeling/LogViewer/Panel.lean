import LogViewer.Query
import LogViewer.Refresher
import LogViewer.RuleSet
import LogViewer.SavedRules
import LogViewer.Storage
import LogViewer.Store

/-!
# The panel

The panel joins the message store, the rule set and the live query, and knows which messages are
visible: those that the selected rule and every live rule let through. Messages that come in are
counted as unread by the rules that are not selected. Every change of the saved rules is saved at
once, and every change of what is visible asks the view for a refresh.

An operation that can fail gives an error in place of the new panel. The three that save give both:
if only the saving fails, the rules are changed all the same.

## Main definitions

- `Panel`, `Panel.start`
- `Panel.receive`, `clear`, `resetSource`, `setMaximum`: messages
- `Panel.take`, `Panel.visible?`: what comes of process numbers that cannot be written
- `Panel.select`, `add`, `remove`, `edit`, `selectApp`, `setQuery`: rules
- `Panel.visible`: the visible messages
- `Panel.attach`: a view that wants to be refreshed
-/

namespace LogViewer

/-- The state of the program apart from its view. -/
structure Panel where
  store : Store
  /-- How many messages are kept, as it was set last. -/
  maximum : Nat
  rules : RuleSet
  query : Text
  level : Level
  /-- The rules of the live query. -/
  live : List Rule
  storage : Storage
  disk : Disk
  /-- The refresher of the attached view. -/
  refresher : Option Refresher
  /-- The warnings since the start, the first one first. -/
  warnings : List Text

namespace Panel

/-! ## §1 Start -/

/-- Why a panel does not start. -/
inductive StartFault where
  | capacity (e : CapacityError)
  | load (e : RuleFile.LoadFault)
  | saved (e : SavedRules.Ending)
deriving DecidableEq, Repr

/-- The text of the complaint. -/
def StartFault.message : StartFault → Text
  | capacity e => e.message
  | load e => e.message
  | saved e => e.message

/-- The only rule of the empty query. -/
def openRule : Rule :=
  ⟨.named (Query.ruleName ""), ⟨none, none, none⟩, false, 0, rfl⟩

/-- What a start comes to, with the warnings on the way. -/
structure Started where
  warnings : List Text
  result : Except StartFault Panel

/-- Starts a panel with the rules of a saved text, as far as the stack goes. -/
def ofTextWithin (k : Stack) (store : Store) (storage : Storage) (disk : Disk)
    (warnings : List Text)
    (text : Text) : Started :=
  let loaded := SavedRules.decodeAllWithin k text
  let warnings := warnings ++ loaded.warnings
  match loaded.result with
  | .error e => ⟨warnings, .error (.saved e)⟩
  | .ok rules =>
    ⟨warnings, .ok ⟨store, store.capacity, .ofRules rules, "", .verbose, [openRule], storage, disk,
      none, warnings⟩⟩

/-- Starts a panel with the rules of a saved text. -/
def ofText (store : Store) (storage : Storage) (disk : Disk) (warnings : List Text)
    (text : Text) : Started :=
  ofTextWithin .endless store storage disk warnings text

/-- Starts a panel that keeps a number of messages and has the rules of a storage. -/
def start (maximum : Int) (storage : Storage) (disk : Disk) : Started :=
  match Store.ofCapacity maximum with
  | .error e => ⟨[], .error (.capacity e)⟩
  | .ok store =>
    let loaded := storage.load disk
    match loaded.result with
    | .error e => ⟨loaded.warnings, .error (.load e)⟩
    | .ok text => ofText store storage disk loaded.warnings text

/-! ## §2 Refreshes -/

/-- Attaches a view, which is to show the latest messages. -/
def attach (p : Panel) : Panel :=
  { p with refresher := some (Refresher.idle.request true).1 }

/-- Asks the attached view for a refresh. -/
def requestRefresh (p : Panel) (scroll : Bool) : Panel :=
  { p with refresher := p.refresher.map fun r => (r.request scroll).1 }

/-- How many refreshes of the view are outstanding. -/
def outstanding (p : Panel) : Nat :=
  match p.refresher with
  | some r => r.outstanding
  | none => 0

/-! ## §3 Messages -/

/-- Takes in a batch of messages. -/
def receive (p : Panel) (batch : List Message) : Panel :=
  if batch.isEmpty then p
  else
    requestRefresh { p with
      store := (p.store.extend batch).1
      rules := p.rules.countUnread batch } false

/-- Takes in a batch, statement by statement: the messages are stored, then counted, and then the
view is asked for a refresh. If the counting breaks off, the messages are stored all the same, the
rules before that one are counted, and the view is not asked. -/
def take (p : Panel) (batch : List Message) : Panel × Except Text.TooManyDigits Unit :=
  match p.rules.uncountable? batch with
  | none => (p.receive batch, .ok ())
  | some (i, e) =>
    ({ p with store := (p.store.extend batch).1, rules := p.rules.countBefore i batch }, .error e)

/-- Removes all messages. -/
def clear (p : Panel) : Panel :=
  requestRefresh { p with store := p.store.clear } true

/-- Begins a new source: no messages, and nothing unread. -/
def resetSource (p : Panel) : Panel :=
  requestRefresh { p with store := p.store.clear, rules := p.rules.markRead } true

/-- Changes how many messages are kept. -/
def setMaximum (p : Panel) (n : Int) : Except CapacityError Panel :=
  (p.store.resize n).map fun (store, _) =>
    requestRefresh { p with store, maximum := store.capacity } false

/-! ## §4 Rules -/

/-- The saved text of the rules. -/
def exportRules (p : Panel) : Text := SavedRules.exportRules p.rules

/-- Saves the rules. -/
def save (p : Panel) : Panel × Except RuleFile.SaveFault Unit :=
  let saved := p.storage.save p.disk p.exportRules
  ({ p with
      storage := saved.storage
      disk := saved.disk
      warnings := p.warnings ++ saved.warnings }, saved.result)

/-- Selects a rule; gives its position. -/
def select (p : Panel) (index : Int) : Panel × Nat :=
  let (rules, i) := p.rules.select index
  (requestRefresh { p with rules } true, i)

/-- Adds a rule; gives its position. -/
def add (p : Panel) (r : Rule) : Panel × Except RuleFile.SaveFault Nat :=
  let (rules, i) := p.rules.add r
  let (p, saved) := save { p with rules }
  (p, saved.map fun _ => i)

/-- Asks for a refresh that scrolls if something is so and the saving went well. -/
def refreshIf (p : Panel) (changed : Bool) (saved : Except RuleFile.SaveFault Unit) :
    Panel × Except RuleFile.SaveFault Bool :=
  match saved with
  | .ok () => (if changed then p.requestRefresh true else p, .ok true)
  | .error e => (p, .error e)

/-- Removes a rule; says whether it did. -/
def remove (p : Panel) (index : Int) : Panel × Except RuleFile.SaveFault Bool :=
  let before := p.rules.selected
  let (rules, done) := p.rules.remove index
  if done then
    let (p, saved) := save { p with rules }
    p.refreshIf (index = before) saved
  else (p, .ok false)

/-- Puts a rule in place of another; says whether it did. -/
def edit (p : Panel) (index : Int) (r : Rule) : Panel × Except RuleFile.SaveFault Bool :=
  let (rules, done) := p.rules.replace index r
  if done then
    let (p, saved) := save { p with rules }
    p.refreshIf (index = p.rules.selected) saved
  else (p, .ok false)

/-- The criteria of the session rule for an application. -/
def sessionCriteria (app : Text) : Criteria :=
  { Criteria.named (app ++ " (Session Filter)") with app }

/-- Selects the session rule for an application, which is added if there is none; gives its
position. -/
def selectApp (p : Panel) (app : Text) : Except RuleError (Panel × Nat) :=
  match p.rules.sessionRule? app with
  | some i => .ok (p.select i)
  | none => do
    let r ← Rule.build (sessionCriteria app) true
    let (rules, i) := p.rules.add r
    return select { p with rules } i

/-- Sets the live query. -/
def setQuery (p : Panel) (query : Text) (level : Level) : Except RuleError Panel := do
  let live ← Query.rules query level
  return requestRefresh { p with query, level, live } true

/-! ## §5 What is visible -/

/-- Whether a message is visible. -/
def shows (p : Panel) (m : Message) : Bool :=
  p.rules.selectedRule.matches m && p.live.all fun r => r.matches m

/-- The visible messages. -/
def visible (p : Panel) : List Message :=
  p.store.messages.filter p.shows

/-- Finds the visible messages one by one, unless a test breaks off. -/
def visible? (p : Panel) : Except Text.TooManyDigits (List Message) :=
  Rule.passing (p.rules.selectedRule :: p.live) p.store.messages

/-- The lines of messages in an exported file. -/
def exportText (ms : List Message) : Text :=
  Text.join (ms.map fun m => m.render ++ "\n")

/-- Why the line of a message cannot be written. -/
inductive LineFault where
  | number (e : Text.TooManyDigits)
  | unencodable (e : Text.Utf8.Unencodable)
deriving DecidableEq, Repr

/-- The bytes of the line of a message. -/
def exportLine (m : Message) : Except LineFault ByteArray :=
  match m.render? with
  | .error e => .error (.number e)
  | .ok line => (Text.Utf8.encode (line ++ "\n")).mapError .unencodable

/-- The bytes of the lines of messages, up to one that cannot be written. -/
def exportLines : List Message → ByteArray × Except LineFault Unit
  | [] => (.empty, .ok ())
  | m :: ms =>
    match exportLine m with
    | .error e => (.empty, .error e)
    | .ok line =>
      let (more, outcome) := exportLines ms
      (line ++ more, outcome)

/-- Why messages are not exported. -/
inductive ExportFault where
  | path (fault : Path.Fault)
  /-- The system refuses to write the file. -/
  | refused (e : FileError)
  | line (fault : LineFault)
deriving DecidableEq, Repr

/-- The text of the complaint. -/
def ExportFault.message : ExportFault → Text
  | path fault => fault.message
  | refused e => e.message
  | line (.number e) => e.writingMessage
  | line (.unencodable e) => e.message

/-- Writes messages to a file; gives how many. A line that cannot be written ends the file before
it. -/
def exportMessages (p : Panel) (ms : List Message) (path : Path) : Panel × Except ExportFault Nat :=
  match path.fault? with
  | some fault => (p, .error (.path fault))
  | none =>
    let (content, outcome) := exportLines ms
    match p.disk.write path content with
    | .error fault => (p, .error (.refused ⟨fault, [path.text]⟩))
    | .ok disk => ({ p with disk }, (outcome.map fun _ => ms.length).mapError .line)

end Panel

end LogViewer
