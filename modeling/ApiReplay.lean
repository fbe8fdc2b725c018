import ApiReplay.Archive.Writer
import ApiReplay.Main
import ApiReplay.Registry.Script
import ApiReplay.Proofs.Session.Step
import ApiReplay.Proofs.Session.Frame
import ApiReplay.Proofs.Session.Log
import ApiReplay.Proofs.Json.Texts
import ApiReplay.Proofs.Variables.Tokens
import ApiReplay.Proofs.Variables.Binding
import ApiReplay.Proofs.Variables.Substitution
import ApiReplay.Proofs.Variables.Readers
import ApiReplay.Proofs.Path.Pieces
import ApiReplay.Proofs.Path.Writing
import ApiReplay.Proofs.Path.Addressing
import ApiReplay.Proofs.Path.Walks
import ApiReplay.Proofs.Json.Agreement
import ApiReplay.Proofs.Session.Matching
import ApiReplay.Proofs.Case.Discipline
import ApiReplay.Proofs.Case.ClientErrors
import ApiReplay.Proofs.Run.Accounting
import ApiReplay.Proofs.Files.Location
import ApiReplay.Proofs.Files.Written
import ApiReplay.Proofs.Files.Directories
import ApiReplay.Proofs.Files.Removal
import ApiReplay.Proofs.Files.Emptying
import ApiReplay.Proofs.Fetch.Confinement
import ApiReplay.Proofs.Fetch.Corpus
import ApiReplay.Proofs.Fetch.Failure
import ApiReplay.Proofs.Fetch.Replacement
import ApiReplay.Proofs.Registry.Dispatch
import ApiReplay.Proofs.Case.Report
import ApiReplay.Proofs.Run.Report
import ApiReplay.Proofs.Case.Isolation
import ApiReplay.Proofs.Run.Independence
import ApiReplay.Proofs.Files.TidyPath
import ApiReplay.Proofs.Files.PathOrder
import ApiReplay.Proofs.Files.Listing
import ApiReplay.Proofs.Run.Selection
import ApiReplay.Proofs.Run.Mistyped
import ApiReplay.Proofs.Document.Fragments
import ApiReplay.Proofs.Double.Rounding
import ApiReplay.Proofs.Session.Comparison
import ApiReplay.Proofs.Session.Truth
import ApiReplay.Proofs.Session.DistinctKeys
import ApiReplay.Proofs.Session.Recall
import ApiReplay.Proofs.Session.Order
import ApiReplay.Proofs.Text.Order
import ApiReplay.Proofs.Http.Templates
import ApiReplay.Proofs.Http.Parameters
import ApiReplay.Proofs.Http.Escaping
import ApiReplay.Proofs.Http.Addresses
import ApiReplay.Proofs.Http.Shape
import ApiReplay.Proofs.Http.Headers
import ApiReplay.Proofs.Http.Refusals
import ApiReplay.Proofs.Session.NamedTruth
import ApiReplay.Proofs.Path.Numerals
import ApiReplay.Proofs.Path.BodyPrefix
import ApiReplay.Proofs.Action.FirstEntries
import ApiReplay.Proofs.Action.Calls
import ApiReplay.Proofs.Text.Parts
import ApiReplay.Proofs.Text.Ends
import ApiReplay.Proofs.Text.Numbers
import ApiReplay.Proofs.Path.RoundTrip
import ApiReplay.Proofs.Action.Categories
import ApiReplay.Proofs.Json.OneLine
import ApiReplay.Proofs.Http.Lines
import ApiReplay.Proofs.Run.Totals
import ApiReplay.Proofs.Path.Splitting
