import CsdlRoutes.Command.Line
import CsdlRoutes.Command.Plan
import CsdlRoutes.Command.Run
import CsdlRoutes.Command.Usage
import CsdlRoutes.ErrorKind
import CsdlRoutes.Failure
import CsdlRoutes.Host.Address
import CsdlRoutes.Host.Basic
import CsdlRoutes.Host.ContentType
import CsdlRoutes.Host.Disk
import CsdlRoutes.Host.Domain
import CsdlRoutes.Host.DomainTable
import CsdlRoutes.Host.Path
import CsdlRoutes.Host.Replacement
import CsdlRoutes.Host.SchemaSource
import CsdlRoutes.Host.Url
import CsdlRoutes.Json.Reader
import CsdlRoutes.Json.Writer
import CsdlRoutes.Main
import CsdlRoutes.Moment
import CsdlRoutes.Number.Binary64
import CsdlRoutes.Number.Shortest
import CsdlRoutes.Number.Whole
import CsdlRoutes.Output.CellWidth
import CsdlRoutes.Output.Console
import CsdlRoutes.Output.Emoji
import CsdlRoutes.Output.EmojiNames
import CsdlRoutes.Output.Flatten
import CsdlRoutes.Output.Format
import CsdlRoutes.Output.Listing
import CsdlRoutes.Output.Literal
import CsdlRoutes.Output.Marks
import CsdlRoutes.Output.Style
import CsdlRoutes.Output.Wrap
import CsdlRoutes.Proofs.Command.DiagnosticFlags
import CsdlRoutes.Proofs.Command.GeneralOptions
import CsdlRoutes.Proofs.Command.JsonListing
import CsdlRoutes.Proofs.Command.PerformedPlans
import CsdlRoutes.Proofs.Command.RootLevel
import CsdlRoutes.Proofs.Command.SettingsChanges
import CsdlRoutes.Proofs.Command.SortedListing
import CsdlRoutes.Proofs.Host.AtomicReplacement
import CsdlRoutes.Proofs.Host.DiskFiles
import CsdlRoutes.Proofs.Host.DiskPlaces
import CsdlRoutes.Proofs.Host.KeptSettings
import CsdlRoutes.Proofs.Host.LoadingFailures
import CsdlRoutes.Proofs.Host.Precedence
import CsdlRoutes.Proofs.Host.Surroundings
import CsdlRoutes.Proofs.Json.ReadValues
import CsdlRoutes.Proofs.Json.WrittenValues
import CsdlRoutes.Proofs.Output.PlainTables
import CsdlRoutes.Proofs.Output.RebuiltSettings
import CsdlRoutes.Proofs.Output.SettingLeaves
import CsdlRoutes.Proofs.Postconditions
import CsdlRoutes.Proofs.ProperValues
import CsdlRoutes.Proofs.Results
import CsdlRoutes.Proofs.Route.Address
import CsdlRoutes.Proofs.Route.Admissible
import CsdlRoutes.Proofs.Route.Casts
import CsdlRoutes.Proofs.Route.ClosedWalk
import CsdlRoutes.Proofs.Route.CommandWords
import CsdlRoutes.Proofs.Route.DepthCap
import CsdlRoutes.Proofs.Route.DistinctTemplates
import CsdlRoutes.Proofs.Route.Enlargement
import CsdlRoutes.Proofs.Route.Interleaving
import CsdlRoutes.Proofs.Route.OrderIndependence
import CsdlRoutes.Proofs.Route.ParentTemplates
import CsdlRoutes.Proofs.Route.Placeholders
import CsdlRoutes.Proofs.Route.Preorder
import CsdlRoutes.Proofs.Route.Saturation
import CsdlRoutes.Proofs.Route.Subtree
import CsdlRoutes.Proofs.Route.TemplateParts
import CsdlRoutes.Proofs.Route.Totality
import CsdlRoutes.Proofs.Route.WalkEmission
import CsdlRoutes.Proofs.Route.Way
import CsdlRoutes.Proofs.Schema.Acceptance
import CsdlRoutes.Proofs.Schema.BaseChain
import CsdlRoutes.Proofs.Schema.BaseSequence
import CsdlRoutes.Proofs.Schema.Closed
import CsdlRoutes.Proofs.Schema.DeclaredProperties
import CsdlRoutes.Proofs.Schema.EnlargedModel
import CsdlRoutes.Proofs.Schema.ErasedDocument
import CsdlRoutes.Proofs.Schema.ExpandedReferences
import CsdlRoutes.Proofs.Schema.ExtractedModel
import CsdlRoutes.Proofs.Schema.FaithfulModel
import CsdlRoutes.Proofs.Schema.InheritanceWalks
import CsdlRoutes.Proofs.Schema.Misreadings
import CsdlRoutes.Proofs.Schema.NormalNames
import CsdlRoutes.Proofs.Schema.QualifiedNames
import CsdlRoutes.Proofs.Schema.ReadDocuments
import CsdlRoutes.Proofs.Schema.RearrangedModel
import CsdlRoutes.Proofs.Schema.Rearrangement
import CsdlRoutes.Proofs.Schema.Redirection
import CsdlRoutes.Proofs.Schema.RegularModel
import CsdlRoutes.Proofs.Schema.ReorderedGraph
import CsdlRoutes.Proofs.Schema.ReorderedTypes
import CsdlRoutes.Proofs.Schema.SegmentList
import CsdlRoutes.Proofs.Schema.SegmentSelection
import CsdlRoutes.Proofs.Schema.ShapedDocuments
import CsdlRoutes.Proofs.Schema.SharedIndex
import CsdlRoutes.Proofs.Schema.SubtypeOrder
import CsdlRoutes.Proofs.Schema.SupertypeSegments
import CsdlRoutes.Proofs.Schema.UnknownTypes
import CsdlRoutes.Proofs.Settings.DecidingSource
import CsdlRoutes.Proofs.Settings.StoredRecord
import CsdlRoutes.Proofs.Shuffled
import CsdlRoutes.Proofs.TableEntries
import CsdlRoutes.Proofs.Yaml.ReadValues
import CsdlRoutes.Record
import CsdlRoutes.Route.Row
import CsdlRoutes.Route.Template
import CsdlRoutes.Route.Tree
import CsdlRoutes.Route.Walk
import CsdlRoutes.Route.Walks
import CsdlRoutes.Route.Words
import CsdlRoutes.Schema.Access
import CsdlRoutes.Schema.AliasTable
import CsdlRoutes.Schema.Document
import CsdlRoutes.Schema.Extraction
import CsdlRoutes.Schema.Inheritance
import CsdlRoutes.Schema.Model
import CsdlRoutes.Schema.Overview
import CsdlRoutes.Schema.QualifiedName
import CsdlRoutes.Schema.Record
import CsdlRoutes.Schema.Segments
import CsdlRoutes.Schema.SubtypeIndex
import CsdlRoutes.Settings.Global
import CsdlRoutes.Settings.Precedence
import CsdlRoutes.Table
import CsdlRoutes.Text.Base64
import CsdlRoutes.Text.Blank
import CsdlRoutes.Text.Charset.ByteTable
import CsdlRoutes.Text.Charset.Chinese
import CsdlRoutes.Text.Charset.ChineseTable
import CsdlRoutes.Text.Charset.DoubleByte
import CsdlRoutes.Text.Charset.Escape
import CsdlRoutes.Text.Charset.Japanese
import CsdlRoutes.Text.Charset.JapaneseTable
import CsdlRoutes.Text.Charset.Korean
import CsdlRoutes.Text.Charset.KoreanTable
import CsdlRoutes.Text.Charset.Named
import CsdlRoutes.Text.Charset.Piece
import CsdlRoutes.Text.Charset.Shifting
import CsdlRoutes.Text.Charset.Unicode
import CsdlRoutes.Text.CodePoint
import CsdlRoutes.Text.Digit
import CsdlRoutes.Text.Lower
import CsdlRoutes.Text.Printable
import CsdlRoutes.Text.Quoted
import CsdlRoutes.Text.Ranges
import CsdlRoutes.Text.Utf8
import CsdlRoutes.Value
import CsdlRoutes.Yaml.Cursor
import CsdlRoutes.Yaml.Document
import CsdlRoutes.Yaml.Fault
import CsdlRoutes.Yaml.Leaf
import CsdlRoutes.Yaml.Merge
import CsdlRoutes.Yaml.Node
import CsdlRoutes.Yaml.Scalar
import CsdlRoutes.Yaml.Shape
import CsdlRoutes.Yaml.Tag
import CsdlRoutes.Yaml.Token
