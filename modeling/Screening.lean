import Screening.Answer
import Screening.Answer.Codec
import Screening.Award
import Screening.Binary64
import Screening.Binary64.Decimal
import Screening.Binary64.Shortest
import Screening.Catalog
import Screening.Catalog.Layout
import Screening.Catalog.Load
import Screening.CommandLine
import Screening.Condition
import Screening.Eligibility
import Screening.Eligibility.Codec
import Screening.Evaluation
import Screening.Failure
import Screening.Host
import Screening.Http
import Screening.Http.MediaType
import Screening.Http.Message
import Screening.Http.Percent
import Screening.Http.Route
import Screening.Json.Choice
import Screening.Json.Codec
import Screening.Json.Fault
import Screening.Json.Outline
import Screening.Json.Printer
import Screening.Json.Reading
import Screening.Json.Record
import Screening.Json.Token
import Screening.Json.Token.Basic
import Screening.Json.Token.Number
import Screening.Json.Token.Text
import Screening.Json.Value
import Screening.Keyed
import Screening.LogFilter
import Screening.LogFilter.Expression
import Screening.LogFilter.Expression.Basic
import Screening.LogFilter.Expression.CharacterSet
import Screening.Main
import Screening.Proofs.Acceptance
import Screening.Proofs.Accounting
import Screening.Proofs.Agreement
import Screening.Proofs.Arrangement
import Screening.Proofs.Attribution
import Screening.Proofs.CanonicalText
import Screening.Proofs.Combination
import Screening.Proofs.Completion
import Screening.Proofs.CompoundDisplay
import Screening.Proofs.ConditionLanguage
import Screening.Proofs.Counting
import Screening.Proofs.DanglingReferences
import Screening.Proofs.Dependencies
import Screening.Proofs.DisplayLanguage
import Screening.Proofs.DollarLabel
import Screening.Proofs.Elimination
import Screening.Proofs.Exchange
import Screening.Proofs.FlatDisjunction
import Screening.Proofs.FollowUps
import Screening.Proofs.Handoff
import Screening.Proofs.History
import Screening.Proofs.Interleaving
import Screening.Proofs.Isolation
import Screening.Proofs.Layout
import Screening.Proofs.Leftmost
import Screening.Proofs.Loading
import Screening.Proofs.Narrowing
import Screening.Proofs.Occurrence
import Screening.Proofs.Operand
import Screening.Proofs.Percentage
import Screening.Proofs.Outcome
import Screening.Proofs.Polarity
import Screening.Proofs.Projection
import Screening.Proofs.RecordSoundness
import Screening.Proofs.Refusal
import Screening.Proofs.RemovedCounts
import Screening.Proofs.RoundTrip
import Screening.Proofs.Rounding
import Screening.Proofs.Satisfiability
import Screening.Proofs.Service
import Screening.Proofs.Sides
import Screening.Proofs.Statuses
import Screening.Questionnaire
import Screening.Questionnaire.Codec
import Screening.Report
import Screening.Roster
import Screening.Rule
import Screening.Run
import Screening.Run.View
import Screening.Settings
import Screening.Settings.Address
import Screening.Tally
import Screening.Text.Alphanumeric
import Screening.Text.Blank
import Screening.Text.Escaped
import Screening.Text.Numeral
import Screening.Text.Pattern
import Screening.Text.Printable
import Screening.Text.Search
import Screening.Visibility
