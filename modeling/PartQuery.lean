import PartQuery.Text.Blank
import PartQuery.Text.Lowercase
import PartQuery.Text.Quoted
import PartQuery.Number.Shortest
import PartQuery.Calendar.Reading
import PartQuery.Calendar.Writing
import PartQuery.Json.Scan
import PartQuery.Json.Reader
import PartQuery.Json.Value
import PartQuery.Rule.Query
import PartQuery.Field
import PartQuery.Part.Reader
import PartQuery.Search
import PartQuery.Sql.Statement
import PartQuery.Shell.Session
import PartQuery.Main
import PartQuery.Proofs.Meaning
import PartQuery.Proofs.Search
import PartQuery.Proofs.Sql.Evaluation
import PartQuery.Proofs.Sql.Storage
import PartQuery.Proofs.Sql.Conditions
import PartQuery.Proofs.Sql.Subselections
import PartQuery.Proofs.Sql.Refinement
import PartQuery.Proofs.Canonical
import PartQuery.Proofs.Faults
import PartQuery.Proofs.Json.Records
import PartQuery.Proofs.Json.Written
import PartQuery.Proofs.WellTyped
import PartQuery.Proofs.Json.Measured
import PartQuery.Proofs.RoundTrip
import PartQuery.Proofs.Acceptance
import PartQuery.Proofs.Rows
import PartQuery.Proofs.Regrouping
import PartQuery.Proofs.Groups
import PartQuery.Proofs.Sessions
import PartQuery.Proofs.Calendar.Gregorian
import PartQuery.Proofs.Calendar.Written
import PartQuery.Proofs.Leaves
import PartQuery.Proofs.Negations
import PartQuery.Proofs.Days
import PartQuery.Proofs.Ordering
import PartQuery.Proofs.Growth
import PartQuery.Proofs.StorageOrder
import PartQuery.Proofs.Occurrences
import PartQuery.Proofs.Sql.Listings
import PartQuery.Proofs.Calendar.Timestamps
import PartQuery.Proofs.Timezones
import PartQuery.Proofs.LastIteration
import PartQuery.Proofs.Sql.Presentation
import PartQuery.Proofs.StoredDates
import PartQuery.Proofs.FieldNames
import PartQuery.Proofs.Sql.Aliases
import PartQuery.Proofs.Configurations
import PartQuery.Proofs.Number.Rounding
import PartQuery.Proofs.Number.Scaling
import PartQuery.Proofs.Json.Numerals
import PartQuery.Proofs.StoredNumbers
