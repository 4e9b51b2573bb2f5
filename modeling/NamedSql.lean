import NamedSql.Log.Profile
import NamedSql.Log.Capture
import NamedSql.Workspace
import NamedSql.Proofs.Sql.Endings
import NamedSql.Proofs.Sql.Origin
import NamedSql.Proofs.Sql.Prepared
import NamedSql.Proofs.Sql.PlanKinds
import NamedSql.Proofs.Sql.Restoring
import NamedSql.Proofs.Registry.Running
import NamedSql.Proofs.Registry.Units
import NamedSql.Proofs.Registry.Executed
import NamedSql.Proofs.Registry.Atomicity
import NamedSql.Proofs.Registry.Loading
import NamedSql.Proofs.Registry.Effects
import NamedSql.Proofs.Registry.Reachable
import NamedSql.Proofs.Registry.Representation
import NamedSql.Proofs.Registry.Batches
import NamedSql.Proofs.Registry.Accessors
import NamedSql.Proofs.Sql.Autocommit
import NamedSql.Proofs.Registry.Quiescence
import NamedSql.Proofs.Sql.Stopping
import NamedSql.Proofs.Sql.Failing
import NamedSql.Proofs.Registry.FailedCalls
import NamedSql.Proofs.Registry.Causes
import NamedSql.Proofs.Registry.Wrapping
import NamedSql.Proofs.Registry.Violations
import NamedSql.Proofs.Log.Spans
import NamedSql.Proofs.Registry.Bracketing
import NamedSql.Proofs.Sql.Definitions
import NamedSql.Proofs.Sql.Resolving
import NamedSql.Proofs.Sql.Aging
import NamedSql.Proofs.Sql.Renewal
import NamedSql.Proofs.Sql.Enforcing
import NamedSql.Proofs.Sql.Afresh
import NamedSql.Proofs.Registry.CachedRecords
import NamedSql.Proofs.Query.LineKinds
import NamedSql.Proofs.Query.Blocks
import NamedSql.Proofs.Query.HeaderGrammar
import NamedSql.Proofs.Query.Rendering
import NamedSql.Proofs.Query.Rereading
import NamedSql.Proofs.Query.HeaderForms
import NamedSql.Proofs.Query.Appending
import NamedSql.Proofs.Query.LineEnds
import NamedSql.Proofs.Sql.Scanning
import NamedSql.Proofs.Sql.Alongside
import NamedSql.Proofs.Sql.Trailing
import NamedSql.Proofs.Sql.Admitting
import NamedSql.Proofs.Registry.Pieces
import NamedSql.Proofs.Sql.Dividing
import NamedSql.Proofs.Sql.Counting
import NamedSql.Proofs.Registry.Requirements
import NamedSql.Proofs.Registry.Verdicts
import NamedSql.Proofs.Registry.ErrorClasses
import NamedSql.Proofs.Registry.Sources
import NamedSql.Proofs.Sql.RowWidths
import NamedSql.Proofs.Sql.Tables
import NamedSql.Proofs.Sql.Columns
import NamedSql.Proofs.Sql.Laws
import NamedSql.Proofs.Sql.Regular
import NamedSql.Proofs.Registry.Grounded
import NamedSql.Proofs.Registry.ReadKinds
import NamedSql.Proofs.Sql.Storing
import NamedSql.Proofs.Sql.Editing
import NamedSql.Proofs.Sql.Deferring
import NamedSql.Proofs.Sql.Reporting
import NamedSql.Proofs.Registry.ChangeCounts
import NamedSql.Proofs.Sql.Binding
import NamedSql.Proofs.Sql.Shuffling
import NamedSql.Proofs.Registry.Alike
import NamedSql.Proofs.Registry.Bindings
import NamedSql.Proofs.Record.Objects
import NamedSql.Proofs.Record.Serialized
import NamedSql.Proofs.Registry.ReturnedMembers
import NamedSql.Proofs.Sql.Inserting
import NamedSql.Proofs.Registry.InsertedIds
import NamedSql.Proofs.Error.Wrappers
import NamedSql.Proofs.Record.Insertion
import NamedSql.Proofs.Sql.Callable
import NamedSql.Proofs.Registry.Registrations
import NamedSql.Proofs.Registry.Tracing
import NamedSql.Proofs.Registry.Verbosity
