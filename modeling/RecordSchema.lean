import RecordSchema.Capability.Basic
import RecordSchema.Capability.Descriptor
import RecordSchema.Capability.Encodings
import RecordSchema.Capability.Load
import RecordSchema.Capability.SizeRange
import RecordSchema.Collection.Interval
import RecordSchema.Collection.OneToOne
import RecordSchema.Collection.Upsert
import RecordSchema.Compile.Check
import RecordSchema.Compile.Evaluate
import RecordSchema.Compile.File
import RecordSchema.Compile.ImportGraph
import RecordSchema.Compile.Load
import RecordSchema.Compile.Report
import RecordSchema.Compile.Resolve
import RecordSchema.Compile.Scope
import RecordSchema.Compile.Sources
import RecordSchema.Compile.Store
import RecordSchema.Diagnostic.Basic
import RecordSchema.Diagnostic.Check
import RecordSchema.Diagnostic.Resolution
import RecordSchema.Document.Basic
import RecordSchema.Document.Decimal
import RecordSchema.Document.Toml
import RecordSchema.Document.Toml.Number
import RecordSchema.Document.Toml.Table
import RecordSchema.Document.Toml.Text
import RecordSchema.Expr.Basic
import RecordSchema.Expr.Problem
import RecordSchema.Expr.Reader
import RecordSchema.Layout.DataType
import RecordSchema.Layout.Declaration
import RecordSchema.Layout.Fault
import RecordSchema.Layout.Packed
import RecordSchema.Layout.Record
import RecordSchema.Layout.TypeTable
import RecordSchema.Layout.Union
import RecordSchema.Name.Grammar
import RecordSchema.Name.Package
import RecordSchema.Project.Basic
import RecordSchema.Project.Samples
import RecordSchema.Proofs.Afresh.Agree
import RecordSchema.Proofs.Afresh.Basic
import RecordSchema.Proofs.Afresh.History
import RecordSchema.Proofs.Afresh.Kept
import RecordSchema.Proofs.Afresh.Load
import RecordSchema.Proofs.Afresh.Moment
import RecordSchema.Proofs.Afresh.Numbered
import RecordSchema.Proofs.Afresh.Part
import RecordSchema.Proofs.Afresh.Renamed
import RecordSchema.Proofs.Afresh.Step
import RecordSchema.Proofs.Afresh.Track
import RecordSchema.Proofs.Alongside.Basic
import RecordSchema.Proofs.Alongside.Formatting
import RecordSchema.Proofs.Alongside.Load
import RecordSchema.Proofs.Alongside.Loaders
import RecordSchema.Proofs.Alongside.Step
import RecordSchema.Proofs.Capability.Described
import RecordSchema.Proofs.Capability.Range
import RecordSchema.Proofs.Check.Admitted
import RecordSchema.Proofs.Check.Declaration
import RecordSchema.Proofs.Check.Holder
import RecordSchema.Proofs.Check.Notation
import RecordSchema.Proofs.Check.Places
import RecordSchema.Proofs.Check.Wider
import RecordSchema.Proofs.Collection.Exchange
import RecordSchema.Proofs.Collection.Tables
import RecordSchema.Proofs.Expr.Alike
import RecordSchema.Proofs.Expr.Below
import RecordSchema.Proofs.Expr.Fault
import RecordSchema.Proofs.Expr.Grammar
import RecordSchema.Proofs.Expr.Located
import RecordSchema.Proofs.Expr.Online
import RecordSchema.Proofs.Expr.Phrase
import RecordSchema.Proofs.Expr.Position
import RecordSchema.Proofs.Expr.Rendered
import RecordSchema.Proofs.Expr.Token
import RecordSchema.Proofs.Expr.Written
import RecordSchema.Proofs.Insertion.Accepted
import RecordSchema.Proofs.Insertion.Effect
import RecordSchema.Proofs.Insertion.Load
import RecordSchema.Proofs.Insertion.Scope
import RecordSchema.Proofs.Insertion.Step
import RecordSchema.Proofs.Layout.Cover
import RecordSchema.Proofs.Layout.Descent
import RecordSchema.Proofs.Layout.Laid
import RecordSchema.Proofs.Layout.Partition
import RecordSchema.Proofs.Load.Answer
import RecordSchema.Proofs.Load.Backed
import RecordSchema.Proofs.Load.Batch
import RecordSchema.Proofs.Load.Binding
import RecordSchema.Proofs.Load.Causes
import RecordSchema.Proofs.Load.Circular
import RecordSchema.Proofs.Load.Complete
import RecordSchema.Proofs.Load.Crossing
import RecordSchema.Proofs.Load.Cycle
import RecordSchema.Proofs.Load.Desk
import RecordSchema.Proofs.Load.Effect
import RecordSchema.Proofs.Load.Enacted
import RecordSchema.Proofs.Load.Fetch
import RecordSchema.Proofs.Load.Growth
import RecordSchema.Proofs.Load.Lockstep
import RecordSchema.Proofs.Load.Moment
import RecordSchema.Proofs.Load.Nesting
import RecordSchema.Proofs.Load.Objection
import RecordSchema.Proofs.Load.Path
import RecordSchema.Proofs.Load.Qualifiers
import RecordSchema.Proofs.Load.Reason
import RecordSchema.Proofs.Load.Request
import RecordSchema.Proofs.Load.Search
import RecordSchema.Proofs.Load.Session
import RecordSchema.Proofs.Load.Shortest
import RecordSchema.Proofs.Load.Sound
import RecordSchema.Proofs.Load.Statement
import RecordSchema.Proofs.Load.Steps
import RecordSchema.Proofs.Load.Stock
import RecordSchema.Proofs.Load.Trail
import RecordSchema.Proofs.Load.Underway
import RecordSchema.Proofs.Load.Unwind
import RecordSchema.Proofs.Load.Verdict
import RecordSchema.Proofs.Load.Wider
import RecordSchema.Proofs.Name.Order
import RecordSchema.Proofs.Outcome
import RecordSchema.Proofs.Project.Packages
import RecordSchema.Proofs.Relocation.Basic
import RecordSchema.Proofs.Relocation.Checking
import RecordSchema.Proofs.Relocation.Effect
import RecordSchema.Proofs.Relocation.Mirror
import RecordSchema.Proofs.Relocation.Nowhere
import RecordSchema.Proofs.Relocation.Parsing
import RecordSchema.Proofs.Relocation.Reading
import RecordSchema.Proofs.Relocation.Resolving
import RecordSchema.Proofs.Relocation.Same
import RecordSchema.Proofs.Renaming.Basic
import RecordSchema.Proofs.Renaming.Files
import RecordSchema.Proofs.Resolution.Blame
import RecordSchema.Proofs.Resolution.Bound
import RecordSchema.Proofs.Resolution.Faithful
import RecordSchema.Proofs.Resolution.Suggested
import RecordSchema.Proofs.Schema.Exact
import RecordSchema.Proofs.Schema.Grammar
import RecordSchema.Proofs.Schema.Mapped
import RecordSchema.Proofs.Schema.Places
import RecordSchema.Proofs.Schema.Printed
import RecordSchema.Proofs.Schema.Written
import RecordSchema.Proofs.Source.Calls
import RecordSchema.Proofs.Source.Filed
import RecordSchema.Proofs.Source.Numbers
import RecordSchema.Proofs.Source.Place
import RecordSchema.Proofs.Source.Registered
import RecordSchema.Proofs.Source.Stable
import RecordSchema.Proofs.Table.Coherent
import RecordSchema.Proofs.Table.Grown
import RecordSchema.Proofs.Table.Limits
import RecordSchema.Proofs.Text.Edits
import RecordSchema.Proofs.Text.Ranked
import RecordSchema.Proofs.Text.Words
import RecordSchema.Schema.Parse
import RecordSchema.Schema.Problem
import RecordSchema.Schema.Statement
import RecordSchema.Schema.TypeExpr
import RecordSchema.Source.FileTree
import RecordSchema.Source.Path
import RecordSchema.Source.Position
import RecordSchema.Source.PositionDocument
import RecordSchema.Source.Registry
import RecordSchema.Text.Alphabetic
import RecordSchema.Text.EditDistance
import RecordSchema.Text.Extender
import RecordSchema.Text.Lowercase
import RecordSchema.Text.Quoted
import RecordSchema.Text.Ranges
import RecordSchema.Text.Split
import RecordSchema.Text.Unprintable
import RecordSchema.Text.Uppercase
