import PathQuery.Command.Answer
import PathQuery.Command.Completion
import PathQuery.Command.Configure
import PathQuery.Command.Execute
import PathQuery.Command.Flag
import PathQuery.Command.Help
import PathQuery.Command.Listing
import PathQuery.Command.Plans
import PathQuery.Command.Program
import PathQuery.Command.Spec
import PathQuery.Command.Version
import PathQuery.Command.World
import PathQuery.Compile.Basic
import PathQuery.Compile.Path
import PathQuery.Compile.Plans
import PathQuery.Compile.Tree
import PathQuery.Config.Basic
import PathQuery.Database.Basic
import PathQuery.Database.Source
import PathQuery.Element.Basic
import PathQuery.Files.Atomic
import PathQuery.Files.Basic
import PathQuery.Files.PathName
import PathQuery.Files.Sources
import PathQuery.Graph.Property
import PathQuery.Graph.Table
import PathQuery.Graph.Topology
import PathQuery.Graph.TopologyFile
import PathQuery.Json.Basic
import PathQuery.Json.Reading
import PathQuery.Log.Basic
import PathQuery.Main
import PathQuery.Markdown.Address
import PathQuery.Markdown.Block
import PathQuery.Markdown.Definition
import PathQuery.Markdown.Html
import PathQuery.Markdown.Inline
import PathQuery.Markdown.Line
import PathQuery.Markdown.Reading
import PathQuery.Number.Binary
import PathQuery.Number.Notation
import PathQuery.Number.Reading
import PathQuery.Plan.Basic
import PathQuery.Plan.Reading
import PathQuery.Query.Error
import PathQuery.Query.Filter
import PathQuery.Query.Tree.Basic
import PathQuery.Query.Tree.Path
import PathQuery.Query.Tree.Prune
import PathQuery.Query.Tree.Validate
import PathQuery.Sql.Column
import PathQuery.Sql.Dialect
import PathQuery.Sql.Draft
import PathQuery.Sql.Fingerprint
import PathQuery.Sql.Fragment
import PathQuery.Sql.Membership
import PathQuery.Sql.Select
import PathQuery.Terminal.Basic
import PathQuery.Terminal.Flow
import PathQuery.Terminal.Page
import PathQuery.Terminal.Sequence
import PathQuery.Terminal.Table
import PathQuery.Terminal.Theme
import PathQuery.Terminal.Width
import PathQuery.Text.Basic
import PathQuery.Text.Blank
import PathQuery.Text.Grapheme
import PathQuery.Text.Han
import PathQuery.Text.Locator
import PathQuery.Text.Named
import PathQuery.Text.Quoted
import PathQuery.Text.Punctuation
import PathQuery.Text.Romanized
import PathQuery.Text.Slug
import PathQuery.Time.Zone
import PathQuery.Time.Moment
import PathQuery.Time.Reading
import PathQuery.Time.ZoneTable
import PathQuery.Toml.Document
import PathQuery.Toml.Syntax
import PathQuery.Traversal.Basic
import PathQuery.Traversal.Error
import PathQuery.Traversal.Loading
import PathQuery.Traversal.Next
import PathQuery.Traversal.Session
import PathQuery.Value.Basic
import PathQuery.Value.Json
import PathQuery.Yaml.Cursor
import PathQuery.Yaml.Decode
import PathQuery.Yaml.Node
import PathQuery.Yaml.Resolve
import PathQuery.Yaml.Token.Scanner
import PathQuery.Yaml.Token.Scalar
import PathQuery.Proofs.Compile.Run
import PathQuery.Proofs.Compile.Slots
import PathQuery.Proofs.Compile.Clauses
import PathQuery.Proofs.Compile.Body
import PathQuery.Proofs.Graph.Columns
import PathQuery.Proofs.Query.Path
import PathQuery.Proofs.Relational.Basic
import PathQuery.Proofs.Relational.Walk
import PathQuery.Proofs.Relational.Match
import PathQuery.Proofs.Relational.Select
import PathQuery.Proofs.Compile.Reference
import PathQuery.Proofs.Relational.Derived
import PathQuery.Proofs.Query.Walk
import PathQuery.Proofs.Relational.Answer
import PathQuery.Proofs.Relational.Spelling
import PathQuery.Proofs.Relational.Statement
import PathQuery.Proofs.Element.Group
import PathQuery.Proofs.Element.Reading
import PathQuery.Proofs.Element.Decoding
import PathQuery.Proofs.Sql.Numbering
import PathQuery.Proofs.Sql.Scan
import PathQuery.Proofs.Sql.Layout
import PathQuery.Proofs.Sql.Drafting
import PathQuery.Proofs.Compile.Writing
import PathQuery.Proofs.Sql.Weave
import PathQuery.Proofs.Compile.Operands
import PathQuery.Proofs.Value.Identity
import PathQuery.Proofs.Value.Writable
import PathQuery.Proofs.Relational.Membership
import PathQuery.Proofs.Query.Arena
import PathQuery.Proofs.Query.Removal
import PathQuery.Proofs.Query.FilterPruning
import PathQuery.Proofs.Query.DepthPruning
import PathQuery.Proofs.Plan.Narrowing
import PathQuery.Proofs.Query.FilterOutcome
import PathQuery.Proofs.Compile.Follow
import PathQuery.Proofs.Compile.Thinning
import PathQuery.Proofs.Compile.Pruned
import PathQuery.Proofs.Traversal.Calls
import PathQuery.Proofs.Traversal.Episode
import PathQuery.Proofs.Traversal.Release
import PathQuery.Proofs.Compile.Sweep
import PathQuery.Proofs.Traversal.Production
import PathQuery.Proofs.Traversal.Sweep
import PathQuery.Proofs.Compile.Lookup
import PathQuery.Proofs.Compile.Renumbering
import PathQuery.Proofs.Compile.Aliases
import PathQuery.Proofs.Compile.Scope
import PathQuery.Proofs.Graph.Creation
import PathQuery.Proofs.Compile.Created
import PathQuery.Proofs.Traversal.Precheck
import PathQuery.Proofs.Query.Upkeep
import PathQuery.Proofs.Query.Consistency
import PathQuery.Proofs.Compile.Coverage
import PathQuery.Proofs.Sql.Masking
import PathQuery.Proofs.Compile.Indifference
import PathQuery.Proofs.Sql.Lexing
import PathQuery.Proofs.Sql.Indentation
import PathQuery.Proofs.Sql.Script
import PathQuery.Proofs.Traversal.Finality
import PathQuery.Proofs.Element.Keys
import PathQuery.Proofs.Traversal.Notices
import PathQuery.Proofs.Traversal.Refusals
import PathQuery.Proofs.Traversal.Batching
import PathQuery.Proofs.Compile.Faults
import PathQuery.Proofs.Graph.Resolution
import PathQuery.Proofs.Graph.Meaning
import PathQuery.Proofs.Graph.Refusal
import PathQuery.Proofs.Element.Identities
import PathQuery.Proofs.Element.Labels
import PathQuery.Proofs.Text.Glyphs
import PathQuery.Proofs.Number.Digits
import PathQuery.Proofs.Toml.Lines
import PathQuery.Proofs.Files.PathName
import PathQuery.Proofs.Files.Frame
import PathQuery.Proofs.Files.Replacement
import PathQuery.Proofs.Files.Target
import PathQuery.Proofs.Files.Commit
import PathQuery.Proofs.Config.Codec
import PathQuery.Proofs.Config.Saving
import PathQuery.Proofs.Command.Run
import PathQuery.Proofs.Command.Editing
import PathQuery.Proofs.Command.Envelope
import PathQuery.Proofs.Command.Listing
import PathQuery.Proofs.Query.Segments
import PathQuery.Proofs.Query.Branches
import PathQuery.Proofs.Sql.Pattern
import PathQuery.Proofs.Files.Way
import PathQuery.Proofs.Files.Publication
import PathQuery.Proofs.Text.Cut
import PathQuery.Proofs.Graph.Ordering
import PathQuery.Proofs.Yaml.Decoding
import PathQuery.Proofs.Graph.Naming
import PathQuery.Proofs.Plan.Naming
import PathQuery.Proofs.Compile.Binding
import PathQuery.Proofs.Plan.Operands
import PathQuery.Proofs.Graph.Definedness
import PathQuery.Proofs.Traversal.Loading
import PathQuery.Proofs.Plan.Building
import PathQuery.Proofs.Compile.Temporaries
import PathQuery.Proofs.Command.Workers
import PathQuery.Proofs.Value.Span
import PathQuery.Proofs.Compile.Registry
import PathQuery.Proofs.Query.Labels
