import Organizer.Text.Case
import Organizer.Text.Digit
import Organizer.Text.Width
import Organizer.Text.Printable
import Organizer.Number.Double
import Organizer.Number.Scientific
import Organizer.Number.Reading
import Organizer.Json.Basic
import Organizer.Json.Display
import Organizer.Json.Reader
import Organizer.CommandLine.Words
import Organizer.History
import Organizer.Arithmetic.Eval
import Organizer.Response
import Organizer.Action
import Organizer.Store.Records
import Organizer.Calendar.Month
import Organizer.Text.Percent
import Organizer.Markup.Reading
import Organizer.FileTree
import Organizer.Session
import Organizer.Main
import Organizer.Console.Machine
import Organizer.Help
import Organizer.Collection.Notes
import Organizer.Collection.Todos
import Organizer.Collection.Links
import Organizer.Collection.Contacts
import Organizer.Calendar.Agenda
import Organizer.Timer.Scheduler
import Organizer.Proofs.App.ErrorAnswers
import Organizer.Proofs.Timer.SingleTimer
import Organizer.Proofs.Store.CalendarIndex
import Organizer.Proofs.Store.Persistence
import Organizer.Proofs.Json.Readable
import Organizer.Proofs.Files.RoundTrip
import Organizer.Proofs.Arithmetic.Grammar
import Organizer.Proofs.Arithmetic.Reading
import Organizer.Proofs.Arithmetic.Calculation
import Organizer.Proofs.Store.Holding
import Organizer.Proofs.Collection.Fitting
import Organizer.Proofs.App.Running
import Organizer.Proofs.Collection.Restoring
import Organizer.Proofs.Store.Series
import Organizer.Proofs.Calendar.Replacing
import Organizer.Proofs.Calendar.Restoring
import Organizer.Proofs.CommandLine.Rendering
import Organizer.Proofs.Timer.Traces
import Organizer.Proofs.Calendar.Listing
import Organizer.Proofs.Collection.LinkListing
import Organizer.Proofs.Collection.LinkWording
import Organizer.Proofs.App.FailedChanges
import Organizer.Proofs.Store.Interrupting
import Organizer.Proofs.Store.Confining
import Organizer.Proofs.Collection.Confining
import Organizer.Proofs.Timer.Confining
import Organizer.Proofs.App.Confinement
import Organizer.Proofs.Calendar.RealDays
import Organizer.Proofs.Store.Keys
import Organizer.Proofs.Calendar.Filing
import Organizer.Proofs.CommandLine.EmptyQuotes
import Organizer.Proofs.Console.Turns
import Organizer.Proofs.App.Adding
import Organizer.Proofs.Store.Refining
import Organizer.Proofs.CommandLine.Accounting
import Organizer.Proofs.Timer.NextTime
import Organizer.Proofs.Calendar.Grid
import Organizer.Proofs.Collection.FirstMatch
import Organizer.Proofs.Collection.MarkingDone
import Organizer.Proofs.Collection.DeletingContacts
import Organizer.Proofs.Calendar.ShownDays
import Organizer.Proofs.CommandLine.Shortcuts
import Organizer.Proofs.History.Recalling
import Organizer.Proofs.Number.Length
import Organizer.Proofs.Arithmetic.Outcomes
import Organizer.Proofs.Arithmetic.Bounds
import Organizer.Proofs.Collection.LiteralPieces
