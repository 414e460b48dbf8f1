import LogViewer.CommandLine
import LogViewer.Feed
import LogViewer.Files.Disk
import LogViewer.Files.Path
import LogViewer.Index
import LogViewer.Json.Reader
import LogViewer.Json.Value
import LogViewer.Json.Writer
import LogViewer.Level
import LogViewer.LogLine
import LogViewer.Main
import LogViewer.Message
import LogViewer.Panel
import LogViewer.Pattern.Basic
import LogViewer.Pattern.Error
import LogViewer.Pattern.Matcher
import LogViewer.Pattern.Reader
import LogViewer.Pattern.Source
import LogViewer.Pattern.Step
import LogViewer.Pattern.Tree
import LogViewer.Processes
import LogViewer.Proofs.Feed.Batching
import LogViewer.Proofs.Feed.Lines
import LogViewer.Proofs.Files.Keeping
import LogViewer.Proofs.Files.Places
import LogViewer.Proofs.Json.Fragment
import LogViewer.Proofs.Json.ReadWritten
import LogViewer.Proofs.Lists
import LogViewer.Proofs.LogLine.Accepted
import LogViewer.Proofs.LogLine.Counted
import LogViewer.Proofs.LogLine.LineFeeds
import LogViewer.Proofs.LogLine.Patterns
import LogViewer.Proofs.LogLine.Pieces
import LogViewer.Proofs.LogLine.Printed
import LogViewer.Proofs.LogLine.Shapes
import LogViewer.Proofs.Panel.Batches
import LogViewer.Proofs.Panel.Export
import LogViewer.Proofs.Panel.Overflow
import LogViewer.Proofs.Panel.Positions
import LogViewer.Proofs.Panel.Requests
import LogViewer.Proofs.Panel.Run
import LogViewer.Proofs.Panel.Saved
import LogViewer.Proofs.Panel.SessionRules
import LogViewer.Proofs.Panel.Statements
import LogViewer.Proofs.Panel.Stored
import LogViewer.Proofs.Panel.Testing
import LogViewer.Proofs.Panel.Unread
import LogViewer.Proofs.Pattern.Committed
import LogViewer.Proofs.Pattern.Counts
import LogViewer.Proofs.Pattern.Ordinary
import LogViewer.Proofs.Pattern.Rounds
import LogViewer.Proofs.Pattern.Searching
import LogViewer.Proofs.Processes.Events
import LogViewer.Proofs.Processes.Latest
import LogViewer.Proofs.Processes.Names
import LogViewer.Proofs.Query.Conjunction
import LogViewer.Proofs.Query.Valid
import LogViewer.Proofs.Refresher.Coalescing
import LogViewer.Proofs.Refresher.Serving
import LogViewer.Proofs.RuleFile.Failures
import LogViewer.Proofs.RuleFile.Interrupted
import LogViewer.Proofs.Rules.Changes
import LogViewer.Proofs.Rules.Literals
import LogViewer.Proofs.Rules.Selection
import LogViewer.Proofs.SavedRules.Damage
import LogViewer.Proofs.SavedRules.Lines
import LogViewer.Proofs.SavedRules.Reload
import LogViewer.Proofs.SavedRules.Skipping
import LogViewer.Proofs.Screen.Actions
import LogViewer.Proofs.Screen.AtRest
import LogViewer.Proofs.Screen.Calls
import LogViewer.Proofs.Screen.Committing
import LogViewer.Proofs.Screen.Dialogs
import LogViewer.Proofs.Screen.Events
import LogViewer.Proofs.Screen.Following
import LogViewer.Proofs.Screen.KeepingPlace
import LogViewer.Proofs.Screen.Keyboard
import LogViewer.Proofs.Screen.OwnApplication
import LogViewer.Proofs.Screen.PaneRows
import LogViewer.Proofs.Screen.Projection
import LogViewer.Proofs.Screen.Resting
import LogViewer.Proofs.Screen.RowCache
import LogViewer.Proofs.Screen.SearchBar
import LogViewer.Proofs.Screen.Wakeups
import LogViewer.Proofs.Store.Run
import LogViewer.Proofs.Text.Cut
import LogViewer.Proofs.Text.Words
import LogViewer.Proofs.Trace
import LogViewer.Query
import LogViewer.Refresher
import LogViewer.Rule
import LogViewer.RuleFile
import LogViewer.RuleSet
import LogViewer.SavedRule
import LogViewer.SavedRules
import LogViewer.Screen.Basic
import LogViewer.Screen.Console
import LogViewer.Screen.Dialog
import LogViewer.Screen.Keys
import LogViewer.Screen.LineEdit
import LogViewer.Screen.Pane
import LogViewer.Screen.Pill
import LogViewer.Screen.Rows
import LogViewer.Screen.Wakeups
import LogViewer.Session
import LogViewer.Storage
import LogViewer.Store
import LogViewer.Text.Basic
import LogViewer.Text.Blank
import LogViewer.Text.Case
import LogViewer.Text.CharacterName
import LogViewer.Text.CharacterName.Aliases
import LogViewer.Text.CharacterName.Alphabets
import LogViewer.Text.CharacterName.Ancient
import LogViewer.Text.CharacterName.Historic
import LogViewer.Text.CharacterName.Music
import LogViewer.Text.CharacterName.Pictures
import LogViewer.Text.CharacterName.Scripts
import LogViewer.Text.CharacterName.Syllabaries
import LogViewer.Text.CharacterName.Symbols
import LogViewer.Text.CodeTable
import LogViewer.Text.Decimal
import LogViewer.Text.Identifier
import LogViewer.Text.Letter
import LogViewer.Text.Lines
import LogViewer.Text.NameTable
import LogViewer.Text.Printable
import LogViewer.Text.Quoted
import LogViewer.Text.Shortest
import LogViewer.Text.Utf8
