import Logbook.Command.Directory
import Logbook.Main
import Logbook.Proofs.Message.Blocks
import Logbook.Proofs.Message.Times
import Logbook.Proofs.Text.Pieces
import Logbook.Proofs.Message.Division
import Logbook.Proofs.Session.Growth
import Logbook.Proofs.Time.Years
import Logbook.Proofs.Time.Anchoring
import Logbook.Proofs.Message.Midnights
import Logbook.Proofs.Session.Calendar
import Logbook.Proofs.Session.Midnights
import Logbook.Proofs.Query.Invariance
import Logbook.Proofs.Session.Reading
import Logbook.Proofs.Expr.Surface
import Logbook.Proofs.Session.Answer
import Logbook.Proofs.Expr.Reads
import Logbook.Proofs.Expr.Parse
import Logbook.Proofs.Expr.Sound
import Logbook.Proofs.Expr.Spelling
import Logbook.Proofs.Expr.Language
import Logbook.Proofs.Expr.Arguments
import Logbook.Proofs.Expr.ByName
import Logbook.Proofs.Expr.Evaluation
import Logbook.Proofs.Time.Dates
import Logbook.Proofs.Dictionary.Marks
import Logbook.Proofs.Time.Controls
import Logbook.Proofs.Time.Bounds
import Logbook.Proofs.Time.InText
import Logbook.Proofs.Dictionary.Entries
import Logbook.Proofs.Dictionary.Description
import Logbook.Proofs.Dictionary.Missing
import Logbook.Proofs.Session.Independence
import Logbook.Proofs.Expr.Fields
import Logbook.Proofs.Expr.Height
import Logbook.Proofs.Message.Streams
import Logbook.Proofs.Message.Exchanges
import Logbook.Proofs.Session.Suggestions
import Logbook.Proofs.Expr.Errors
import Logbook.Proofs.Message.Payload
import Logbook.Proofs.Console.Exact
import Logbook.Proofs.Message.Places
import Logbook.Proofs.Message.TagObjects
import Logbook.Proofs.Message.FirstLines
import Logbook.Proofs.Message.Copies
import Logbook.Proofs.Message.Names
import Logbook.Proofs.Message.Cancellations
import Logbook.Proofs.Message.Contents
import Logbook.Proofs.Expr.Links
import Logbook.Proofs.Expr.OptionalCalls
import Logbook.Proofs.Value.Structured
import Logbook.Proofs.Expr.Lexemes
import Logbook.Proofs.Expr.Numbers
import Logbook.Proofs.Expr.Slices
import Logbook.Proofs.Expr.Separators
import Logbook.Proofs.Expr.Loops
import Logbook.Proofs.Report.Lines
import Logbook.Proofs.Command.Output
import Logbook.Proofs.View.Colors
import Logbook.Proofs.Text.Hash
import Logbook.Proofs.Dictionary.Written
import Logbook.Proofs.Command.Views
import Logbook.Proofs.Expr.Columns
import Logbook.Proofs.Expr.Balance
