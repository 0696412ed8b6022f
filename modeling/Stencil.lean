import Stencil.Compiled
import Stencil.Data.Binding
import Stencil.Data.Call
import Stencil.Data.Display
import Stencil.Data.Fault
import Stencil.Data.Key
import Stencil.Data.Lookup
import Stencil.Data.Merge
import Stencil.Data.Run
import Stencil.Data.Value
import Stencil.Data.View
import Stencil.Environment
import Stencil.Failure
import Stencil.Inlining
import Stencil.Log.Clock
import Stencil.Log.Event
import Stencil.Log.Json
import Stencil.Log.Layout
import Stencil.Log.Logger
import Stencil.Log.Pattern
import Stencil.Log.Record
import Stencil.Markup
import Stencil.Log.Timestamp
import Stencil.Number.Binary64
import Stencil.Number.Decimal
import Stencil.Number.Fixed
import Stencil.Number.Integer
import Stencil.Number.Numeral
import Stencil.Number.Quotient
import Stencil.Operation
import Stencil.Render
import Stencil.Report
import Stencil.Safety
import Stencil.Settings
import Stencil.Template.Basic
import Stencil.Template.Bracketing
import Stencil.Template.Description
import Stencil.Template.Error
import Stencil.Template.Nesting
import Stencil.Template.Printer
import Stencil.Template.Source
import Stencil.Template.Spelling
import Stencil.Text.Blank
import Stencil.Text.Case
import Stencil.Text.Digit
import Stencil.Text.Entity
import Stencil.Text.Intervals
import Stencil.Text.Letter
import Stencil.Text.Printable
import Stencil.Text.Quoted
import Stencil.Text.Split
import Stencil.Workspace
import Stencil.Proofs.Delimiters
import Stencil.Proofs.Matching
import Stencil.Proofs.Spelling
import Stencil.Proofs.Runs
import Stencil.Proofs.Inlining
import Stencil.Proofs.Safety
import Stencil.Proofs.Chunks
import Stencil.Proofs.Order
import Stencil.Proofs.Markup
import Stencil.Proofs.Printing
import Stencil.Correspondence
import Stencil.Proofs.Correspondence
import Stencil.Proofs.Dependence
import Stencil.Proofs.Joining
import Stencil.Layering
import Stencil.Proofs.Keys
import Stencil.Proofs.Maps
import Stencil.Proofs.Likeness
import Stencil.Proofs.Layering
import Stencil.Proofs.Defaults
import Stencil.History
import Stencil.Proofs.Stateless
import Stencil.Proofs.History
import Stencil.Proofs.Congruence
import Stencil.Proofs.Repeating
import Stencil.Visit
import Stencil.Proofs.Visits
import Stencil.Proofs.Nesting
import Stencil.Proofs.Limit
import Stencil.Agreement
import Stencil.Proofs.Agreement
import Stencil.Overflow
import Stencil.Proofs.Constancy
import Stencil.Proofs.Overflow
import Stencil.Stage
import Stencil.Proofs.Stages
import Stencil.Proofs.Raising
import Stencil.Holding
import Stencil.Proofs.Plain
import Stencil.Proofs.Simulation
import Stencil.Proofs.Unusable
import Stencil.Tabulation
import Stencil.Proofs.Tabulation
import Stencil.Proofs.Escaping
import Stencil.Descent
import Stencil.Proofs.Paths
import Stencil.Proofs.Descent
import Stencil.Proofs.Numerals
import Stencil.Proofs.Indexing
import Stencil.Interchange
import Stencil.Proofs.Kinds
import Stencil.Proofs.Interchange
import Stencil.Proofs.Comments
import Stencil.Assignment
import Stencil.Proofs.Assignment
import Stencil.Log.Choice
import Stencil.Proofs.Choice
import Stencil.Journal
import Stencil.Proofs.Journal
import Stencil.Proofs.Muting
import Stencil.Log.Colour
import Stencil.Proofs.Lines
import Stencil.Proofs.Locations
import Stencil.Proofs.Colours
import Stencil.Proofs.Calendar
import Stencil.Proofs.Timestamps
import Stencil.Log.Envelope
import Stencil.Proofs.Attributes
import Stencil.Proofs.Documents
import Stencil.Proofs.Envelope
