import DataBinding.Text.Ranges
import DataBinding.Text.Blank
import DataBinding.Text.Digits
import DataBinding.Text.Letters
import DataBinding.Text.NameChars
import DataBinding.Text.Marks
import DataBinding.Text.Clusters
import DataBinding.Text.Printable
import DataBinding.Text.LetterCase
import DataBinding.Text.Segments
import DataBinding.Text.SnakeCase
import DataBinding.Declaration
import DataBinding.Declaration.Lookup
import DataBinding.Category
import DataBinding.Injection
import DataBinding.Diagnostic
import DataBinding.Options
import DataBinding.EnumRegistry
import DataBinding.Descriptor
import DataBinding.Classification
import DataBinding.Inheritance
import DataBinding.Outline
import DataBinding.Extraction
import DataBinding.Merging
import DataBinding.EventCalls
import DataBinding.Analysis
import DataBinding.Document
import DataBinding.Declaration.Document
import DataBinding.Declaration.Readings
import DataBinding.Descriptor.Document
import DataBinding.Document.Decoder
import DataBinding.Document.Json
import DataBinding.Code.Token
import DataBinding.Code.Literal
import DataBinding.Code.Name
import DataBinding.Code.LiteralText
import DataBinding.Code.Number
import DataBinding.Code.Lexeme
import DataBinding.Code.Parse
import DataBinding.Code.Grammar.Paths
import DataBinding.Code.Grammar.Bounds
import DataBinding.Code.Grammar.Types
import DataBinding.Code.Grammar.Patterns
import DataBinding.Code.Grammar.Expressions
import DataBinding.Code.Grammar.Items
import DataBinding.Code.Grammar.Statements
import DataBinding.Emission.Selection
import DataBinding.Emission.Site
import DataBinding.Emission.Values
import DataBinding.Emission.Storage
import DataBinding.Emission.Accessors
import DataBinding.Emission.Conversions
import DataBinding.Emission.Binding
import DataBinding.Emission.Invocation
import DataBinding.Emission.Unit
import DataBinding.Generation.Files
import DataBinding.Generation
import DataBinding.Toml.Text
import DataBinding.Toml.Scalar
import DataBinding.Toml.Table
import DataBinding.Toml.Read
import DataBinding.Manifest
import DataBinding.CommandLine.Files
import DataBinding.CommandLine.Arguments
import DataBinding.CommandLine.Run
import DataBinding.Main
import DataBinding.Live.Value
import DataBinding.Live.TypeInfo
import DataBinding.Live.EnumTable
import DataBinding.Live.ChangeEvent
import DataBinding.Live.EventCall
import DataBinding.Live.Field
import DataBinding.Live.Change
import DataBinding.Live.Consumer
import DataBinding.Live.Model
import DataBinding.Live.Method
import DataBinding.CheckedInt
import DataBinding.Game.Enums
import DataBinding.Game.Parcel
import DataBinding.Game.Entity
import DataBinding.Game.Player
import DataBinding.Game.Shop
import DataBinding.Game.Counter
import DataBinding.Game.Foe
import DataBinding.Game.Screen
import DataBinding.Live.Document
import DataBinding.Game.Document
import DataBinding.Proofs.Inheritance
import DataBinding.Proofs.Outline
import DataBinding.Proofs.Lineage
import DataBinding.Proofs.FirstOffers
import DataBinding.Proofs.Analysis
import DataBinding.Proofs.Merging
import DataBinding.Proofs.Owners
import DataBinding.Proofs.Delegation
import DataBinding.Proofs.Diagnostics
import DataBinding.Proofs.Emission
import DataBinding.Proofs.Extraction
import DataBinding.Proofs.EventTypes
import DataBinding.Proofs.WrittenInOrder
import DataBinding.Proofs.FollowUps
import DataBinding.Proofs.EmbeddedBases
import DataBinding.Proofs.EnumRegistry
import DataBinding.Proofs.Conversions
import DataBinding.Proofs.ConversionNeeds
import DataBinding.Proofs.EventOrder
import DataBinding.Proofs.Lookups
import DataBinding.Proofs.DeclarationOrder
import DataBinding.Proofs.Isolation
import DataBinding.Proofs.Announcing
import DataBinding.Proofs.ManaCounts
import DataBinding.Proofs.Freshness
import DataBinding.Proofs.Rejections
import DataBinding.Proofs.Literals
import DataBinding.Proofs.Selections
import DataBinding.Proofs.SetterContract
import DataBinding.Proofs.EventAnswers
import DataBinding.Proofs.Documents
import DataBinding.Proofs.ByteOrder
import DataBinding.Proofs.Walks
import DataBinding.Proofs.ScanFaults
import DataBinding.Proofs.FieldOffers
import DataBinding.Proofs.Enlargements
import DataBinding.Proofs.Strangers
import DataBinding.Proofs.SnakeCase
import DataBinding.Proofs.AccessorNames
import DataBinding.Proofs.Indexes
import DataBinding.Proofs.Writing
import DataBinding.Proofs.FileNames
import DataBinding.Proofs.Dispatch
import DataBinding.Proofs.Sending
import DataBinding.Proofs.ManaBooks
import DataBinding.Proofs.WritingBack
import DataBinding.Proofs.Copying
import DataBinding.Proofs.UnitFaults
import DataBinding.Proofs.RunEndings
import DataBinding.Proofs.ExposedCalls
import DataBinding.Proofs.DirectBases
import DataBinding.Proofs.RootReferences
import DataBinding.Proofs.Descriptors
import DataBinding.Proofs.InvalidTypes
import DataBinding.Proofs.RegistryRuns
import DataBinding.Proofs.UnopenedArguments
import DataBinding.Proofs.IntegerLiterals
import DataBinding.Proofs.IntegerArms
import DataBinding.Proofs.ConsumerProtocol
import DataBinding.Proofs.ArgumentPositions
import DataBinding.Proofs.InjectedStatements
