import LineSearch.App.Drawing
import LineSearch.Main
import LineSearch.Proofs.App.Cancellation
import LineSearch.Proofs.App.Reopening
import LineSearch.Proofs.App.Typing
import LineSearch.Proofs.Scan.Refinement
import LineSearch.Proofs.Scan.Spans
import LineSearch.Proofs.Search.History
import LineSearch.Proofs.Search.Painting
import LineSearch.Theme.Reading
import LineSearch.Proofs.App.Accepting
import LineSearch.Proofs.Scan.Conditions
import LineSearch.Proofs.Scan.IgnoringCase
import LineSearch.Proofs.Data.Json
import LineSearch.Proofs.Report
import LineSearch.Proofs.Text.Occurrence
import LineSearch.Proofs.Text.Columns
import LineSearch.Proofs.Word
import LineSearch.Proofs.Scan.OwnLine
import LineSearch.Proofs.Scan.Selecting
import LineSearch.Proofs.App.Preview
import LineSearch.Proofs.Scan.Spelling
import LineSearch.Proofs.Picker.Editing
import LineSearch.Proofs.Regex.Literal
import LineSearch.Proofs.Text.Bytes
import LineSearch.Proofs.Text.Numeral
import LineSearch.Proofs.Screen.Color
import LineSearch.Proofs.Highlight.Painted
import LineSearch.Proofs.Position
import LineSearch.Proofs.Screen.Runs
import LineSearch.Proofs.Viewer.Drawing
import LineSearch.Proofs.SelectedText
import LineSearch.Proofs.Document
import LineSearch.Proofs.App.Settling
import LineSearch.Proofs.Viewer.Navigation
import LineSearch.Proofs.Picker.Cursor
import LineSearch.Proofs.Picker.Focus
import LineSearch.Proofs.Highlight.Sharing
import LineSearch.Proofs.Settings.Files
import LineSearch.Proofs.Settings.Loading
import LineSearch.Proofs.Word.Maximal
