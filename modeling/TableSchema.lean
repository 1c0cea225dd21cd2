import TableSchema.Build
import TableSchema.Catalog.Basic
import TableSchema.Catalog.Json
import TableSchema.Command.Arguments
import TableSchema.Command.Basic
import TableSchema.Command.Error
import TableSchema.Command.Help
import TableSchema.Command.Outcome
import TableSchema.Command.Response
import TableSchema.Configuration
import TableSchema.Declaration.Basic
import TableSchema.Declaration.Reader
import TableSchema.Definition
import TableSchema.Definition.Json
import TableSchema.Double
import TableSchema.FilePath
import TableSchema.Files
import TableSchema.HintSet
import TableSchema.Json.Basic
import TableSchema.Json.Node
import TableSchema.Json.Number
import TableSchema.Json.Options
import TableSchema.Json.Printer
import TableSchema.Json.Problem
import TableSchema.Json.Reader
import TableSchema.Json.Record
import TableSchema.Json.Token
import TableSchema.Json.Variant
import TableSchema.Loading
import TableSchema.Log.Filter
import TableSchema.Log.Line
import TableSchema.Log.Record
import TableSchema.Log.Settings
import TableSchema.Main
import TableSchema.NormalForm
import TableSchema.NormalForm.Json
import TableSchema.Options
import TableSchema.Pattern
import TableSchema.Pattern.Atom
import TableSchema.Pattern.Bracket
import TableSchema.Proofs.Registry.ResourceIds
import TableSchema.Proofs.Registry.Runs
import TableSchema.Proofs.ResourceId
import TableSchema.Proofs.ResourceId.Slots
import TableSchema.Proofs.Text.ByteOrder
import TableSchema.Proofs.Text.Bytes
import TableSchema.Proofs.Validation.Findings
import TableSchema.Proofs.Validation.Order
import TableSchema.Proofs.Validation.RepeatedTables
import TableSchema.Proofs.Validation.WellFormed
import TableSchema.Proofs.Walk
import TableSchema.Registry
import TableSchema.ResourceId
import TableSchema.Text.CharacterClass
import TableSchema.Text.Hexadecimal
import TableSchema.Text.Hidden
import TableSchema.Text.Quoted
import TableSchema.Validation
import TableSchema.Violation
import TableSchema.Violation.Json
import TableSchema.Proofs.Registry.Lookup
import TableSchema.Proofs.Registry.Registration
import TableSchema.Proofs.Registry.Commuting
import TableSchema.Proofs.Build.Workload
import TableSchema.Proofs.Build.InTurn
import TableSchema.Proofs.Build.Fates
import TableSchema.Proofs.NormalForm
import TableSchema.Proofs.Catalog
import TableSchema.Proofs.Build.Isolation
import TableSchema.Proofs.Build.Success
import TableSchema.Proofs.Build.Records
import TableSchema.Proofs.NormalForm.Source
import TableSchema.Proofs.Json.Spelling
import TableSchema.Proofs.Json.Tree
import TableSchema.Proofs.Json.Reading
import TableSchema.Proofs.Json.Record
import TableSchema.Proofs.Json.Arrangement
import TableSchema.Proofs.Json.Printing
import TableSchema.Proofs.Declaration.Rendering
import TableSchema.Proofs.Json.Fields
import TableSchema.Proofs.Declaration.Entries
import TableSchema.Proofs.Declaration.Repeats
import TableSchema.Proofs.Build.RepeatedEntries
import TableSchema.Proofs.Json.Canonical
import TableSchema.Proofs.Json.Lines
import TableSchema.Proofs.Command.Agreement
import TableSchema.Proofs.Validation.Appending
import TableSchema.Proofs.Declaration.Hints
import TableSchema.Proofs.Loading
import TableSchema.Proofs.Json.Embedding
import TableSchema.Proofs.Json.Opening
import TableSchema.Proofs.Json.Levels
import TableSchema.Proofs.Declaration.Documents
import TableSchema.Proofs.Build.Opacity
import TableSchema.Proofs.Command.Output
import TableSchema.Proofs.Json.Extended
import TableSchema.Proofs.Json.Options
import TableSchema.Proofs.Definition.Rendering
import TableSchema.Proofs.Catalog.Rendering
import TableSchema.Proofs.Violation.Rendering
import TableSchema.Proofs.RoundTrip
import TableSchema.Proofs.Configuration
import TableSchema.Proofs.Declaration.Tables
import TableSchema.Proofs.Declaration.Lowering
import TableSchema.Proofs.FilePath
