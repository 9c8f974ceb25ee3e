import FieldMenu.Activation.Basic
import FieldMenu.Activation.Change
import FieldMenu.Activation.Question
import FieldMenu.Activation.Report
import FieldMenu.Caption
import FieldMenu.Command.Arguments
import FieldMenu.Command.Help
import FieldMenu.Command.Lookup
import FieldMenu.Command.Run
import FieldMenu.Condition
import FieldMenu.Document.Basic
import FieldMenu.Document.Build
import FieldMenu.Document.Choice
import FieldMenu.Document.Effective
import FieldMenu.Document.Icon
import FieldMenu.Document.Report
import FieldMenu.Document.Write
import FieldMenu.Files.Directory
import FieldMenu.Icons.Theme
import FieldMenu.Json.Read
import FieldMenu.Json.Value
import FieldMenu.Json.Write
import FieldMenu.Library.Basic
import FieldMenu.Log.Code
import FieldMenu.Log.Event
import FieldMenu.Log.Filter
import FieldMenu.Log.Instant
import FieldMenu.Log.Journal
import FieldMenu.Log.Level
import FieldMenu.Log.Output
import FieldMenu.Main
import FieldMenu.Menu.Node
import FieldMenu.Menu.Tree
import FieldMenu.Menu.Write
import FieldMenu.Pattern.Basic
import FieldMenu.Pattern.Bracket
import FieldMenu.Pattern.CharSet
import FieldMenu.Pattern.Cursor
import FieldMenu.Pattern.Escape
import FieldMenu.Pattern.Fault
import FieldMenu.Pattern.Mode
import FieldMenu.Pattern.Nesting
import FieldMenu.Pattern.Parse
import FieldMenu.Pattern.Place
import FieldMenu.Pattern.Read
import FieldMenu.Pattern.Shape
import FieldMenu.Pattern.Space
import FieldMenu.Pattern.Tree
import FieldMenu.Preferences.Basic
import FieldMenu.Proofs.Activation.Acceptance
import FieldMenu.Proofs.Activation.ClearAll
import FieldMenu.Proofs.Activation.Count
import FieldMenu.Proofs.Activation.Flip
import FieldMenu.Proofs.Activation.History
import FieldMenu.Proofs.Activation.Option
import FieldMenu.Proofs.Activation.Plan
import FieldMenu.Proofs.Activation.Protocol
import FieldMenu.Proofs.Activation.Recording
import FieldMenu.Proofs.Activation.Reordering
import FieldMenu.Proofs.Activation.Repetition
import FieldMenu.Proofs.Activation.SelectiveClear
import FieldMenu.Proofs.Activation.Switch
import FieldMenu.Proofs.Activation.Toggle
import FieldMenu.Proofs.Activation.Undoing
import FieldMenu.Proofs.Condition.Containment
import FieldMenu.Proofs.Condition.Duality
import FieldMenu.Proofs.Document.Account
import FieldMenu.Proofs.Document.Cut
import FieldMenu.Proofs.Document.Member
import FieldMenu.Proofs.Document.Names
import FieldMenu.Proofs.Document.Reading
import FieldMenu.Proofs.Document.Sound
import FieldMenu.Proofs.Document.Spelling
import FieldMenu.Proofs.Document.Tree
import FieldMenu.Proofs.Files.Directory
import FieldMenu.Proofs.Json.Reading
import FieldMenu.Proofs.Layout.Array
import FieldMenu.Proofs.Layout.Basic
import FieldMenu.Proofs.Layout.Brackets
import FieldMenu.Proofs.Layout.Items
import FieldMenu.Proofs.Layout.Lookup
import FieldMenu.Proofs.Layout.Members
import FieldMenu.Proofs.Layout.Objects
import FieldMenu.Proofs.Layout.Pieces
import FieldMenu.Proofs.Layout.Reading
import FieldMenu.Proofs.Layout.Removal
import FieldMenu.Proofs.Layout.Search
import FieldMenu.Proofs.Layout.WellFormed
import FieldMenu.Proofs.Layout.Written
import FieldMenu.Proofs.Library.Merge
import FieldMenu.Proofs.Library.Persist
import FieldMenu.Proofs.Library.Reload
import FieldMenu.Proofs.Log.Building
import FieldMenu.Proofs.Menu.Entry
import FieldMenu.Proofs.Menu.Growth
import FieldMenu.Proofs.Menu.Path
import FieldMenu.Proofs.Publish.History
import FieldMenu.Proofs.Publish.Offer
import FieldMenu.Proofs.Record.Alteration
import FieldMenu.Proofs.Record.Clear
import FieldMenu.Proofs.Record.Edit
import FieldMenu.Proofs.Record.Format
import FieldMenu.Proofs.Record.Mapping
import FieldMenu.Proofs.Record.Naming
import FieldMenu.Proofs.Record.Plan
import FieldMenu.Proofs.Scan.Arrays
import FieldMenu.Proofs.Scan.Balanced
import FieldMenu.Proofs.Scan.Between
import FieldMenu.Proofs.Scan.Bytes
import FieldMenu.Proofs.Scan.Cut
import FieldMenu.Proofs.Scan.First
import FieldMenu.Proofs.Scan.Matching
import FieldMenu.Proofs.Scan.Objects
import FieldMenu.Proofs.Scan.Occurrence
import FieldMenu.Proofs.Scan.Offset
import FieldMenu.Proofs.Scan.Passage
import FieldMenu.Proofs.Scan.Safety
import FieldMenu.Proofs.Scan.Scalars
import FieldMenu.Proofs.Scan.Slice
import FieldMenu.Proofs.Scan.Strings
import FieldMenu.Proofs.Scan.Sweep
import FieldMenu.Proofs.Text.Case
import FieldMenu.Proofs.Text.Name
import FieldMenu.Proofs.Text.Sigma
import FieldMenu.Proofs.Text.Split
import FieldMenu.Proofs.Value.Addition
import FieldMenu.Proofs.Value.Order
import FieldMenu.Proofs.Value.Spelling
import FieldMenu.Proofs.Value.Tally
import FieldMenu.Proofs.Value.Token
import FieldMenu.Publish.Basic
import FieldMenu.Record.Basic
import FieldMenu.Record.Edit
import FieldMenu.Record.Field
import FieldMenu.Record.Format
import FieldMenu.Scan.Array
import FieldMenu.Scan.Bracket
import FieldMenu.Scan.Member
import FieldMenu.Scan.Scalar
import FieldMenu.Text.Blank
import FieldMenu.Text.CaseTable
import FieldMenu.Text.Letter
import FieldMenu.Text.LetterTable
import FieldMenu.Text.Lowercase
import FieldMenu.Text.Occurrence
import FieldMenu.Text.Split
import FieldMenu.Toml.Read
import FieldMenu.Toml.Scalar
import FieldMenu.Toml.Value
import FieldMenu.Value.Candidate
import FieldMenu.Value.Token
