import CratePlan.Proofs.OrderedMap
import CratePlan.Command.Arguments
import CratePlan.Command.Run
import CratePlan.Command.Source
import CratePlan.Decimal.Binary64
import CratePlan.Decimal.Shortest
import CratePlan.Diagnostic
import CratePlan.Document.Basic
import CratePlan.Document.Reader
import CratePlan.Document.Schema
import CratePlan.Document.Writer
import CratePlan.Identifier.Keyword
import CratePlan.Identifier.Word
import CratePlan.Json.Basic
import CratePlan.Json.Number
import CratePlan.Json.Read
import CratePlan.Json.Render
import CratePlan.Json.Scan
import CratePlan.Json.Stored
import CratePlan.Main
import CratePlan.Naming.Basic
import CratePlan.Naming.Literal
import CratePlan.Naming.Name
import CratePlan.Naming.ReservedTable
import CratePlan.Naming.Variant
import CratePlan.OrderedMap
import CratePlan.Output.Layout
import CratePlan.Output.Path
import CratePlan.Output.Skeleton
import CratePlan.Plan.Client
import CratePlan.Plan.Json
import CratePlan.Plan.Model
import CratePlan.Plan.Operation
import CratePlan.Proofs.Alphabet
import CratePlan.Report.Event
import CratePlan.Report.Findings
import CratePlan.Report.Inventory
import CratePlan.RustType
import CratePlan.Settings.Basic
import CratePlan.Settings.Check
import CratePlan.Settings.Error
import CratePlan.Settings.Reader
import CratePlan.Settings.Span
import CratePlan.Text.Blank
import CratePlan.Text.CaseTable
import CratePlan.Text.CasedTable
import CratePlan.Text.Casing
import CratePlan.Text.GlyphTable
import CratePlan.Text.Quoted
import CratePlan.Toml.Moment
import CratePlan.Toml.Scalar
import CratePlan.Toml.Scan
import CratePlan.Toml.Value
import CratePlan.Proofs.CaseConversion
import CratePlan.Proofs.Spelling
import CratePlan.Proofs.Grouping
import CratePlan.Proofs.OutputTree
import CratePlan.Proofs.InterfaceFiles
import CratePlan.Proofs.LegalName
import CratePlan.Proofs.PlanRecords
import CratePlan.Proofs.LegalPlan
import CratePlan.Proofs.Keyword
import CratePlan.Proofs.Renaming
import CratePlan.Proofs.FreeName
import CratePlan.Proofs.TypeName
import CratePlan.Proofs.ModelFiles
import CratePlan.Proofs.Components
import CratePlan.Proofs.SkeletonFiles
import CratePlan.Proofs.DocumentationPages
import CratePlan.Proofs.JsonText
import CratePlan.Proofs.JsonValue
import CratePlan.Proofs.JsonRoundTrip
import CratePlan.Proofs.RecordSlots
import CratePlan.Proofs.DocumentFormat
import CratePlan.Proofs.SchemaReading
import CratePlan.Proofs.RoundTrip
import CratePlan.Proofs.RespelledDocument
import CratePlan.Proofs.DistinctKeys
import CratePlan.Proofs.PreferredSpelling
import CratePlan.Proofs.TypeText
import CratePlan.Proofs.RaisedNotes
import CratePlan.Proofs.Attribution
import CratePlan.Proofs.CheckReport
import CratePlan.Proofs.UnmappedTypes
import CratePlan.Proofs.ImportedModels
import CratePlan.Proofs.InterfaceNames
import CratePlan.Proofs.MethodClashes
import CratePlan.Proofs.EmbeddedText
import CratePlan.Proofs.FieldClashes
import CratePlan.Proofs.NotedRenames
import CratePlan.Proofs.GivenSettings
import CratePlan.Proofs.SettledNames
import CratePlan.Proofs.AnnouncedNames
import CratePlan.Proofs.ImportOrder
import CratePlan.Proofs.VariantClashes
import CratePlan.Proofs.KeySpan
import CratePlan.Proofs.EnumDefaults
import CratePlan.Proofs.EnumNames
import CratePlan.Proofs.ScannedRest
import CratePlan.Proofs.Statements
import CratePlan.Proofs.BlankPackage
import CratePlan.Proofs.LatestFiles
import CratePlan.Proofs.MeetingPlaces
import CratePlan.Proofs.TagWords
import CratePlan.Proofs.ImportQuestions
import CratePlan.Proofs.UnusableModels
import CratePlan.Proofs.WordStarts
