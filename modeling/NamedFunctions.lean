import NamedFunctions.Text.Blank
import NamedFunctions.Text.Invisible
import NamedFunctions.Text.Escaped
import NamedFunctions.Definition
import NamedFunctions.Kind
import NamedFunctions.Signature
import NamedFunctions.Payload
import NamedFunctions.Invocation
import NamedFunctions.ObjectClass
import NamedFunctions.Target
import NamedFunctions.Registration
import NamedFunctions.Component
import NamedFunctions.FunctionObject
import NamedFunctions.Value
import NamedFunctions.Scripted
import NamedFunctions.Description
import NamedFunctions.NameSet
import NamedFunctions.Registry.Basic
import NamedFunctions.Registry.Declared
import NamedFunctions.Discovery
import NamedFunctions.Pipeline
import NamedFunctions.Store
import NamedFunctions.Settings
import NamedFunctions.Toml.Item
import NamedFunctions.Toml.Scalar
import NamedFunctions.Toml.Quoted
import NamedFunctions.Toml.Table
import NamedFunctions.Toml.Document
import NamedFunctions.Settings.Document
import NamedFunctions.Event
import NamedFunctions.Procedure
import NamedFunctions.Catalog
import NamedFunctions.Layer
import NamedFunctions.Operation
import NamedFunctions.Concurrent.Publication
import NamedFunctions.Concurrent.Flight
import NamedFunctions.Concurrent.Interleaving
import NamedFunctions.Proofs.CanonicalForm
import NamedFunctions.Proofs.StoreGrowth
import NamedFunctions.Proofs.LayeredLookup
import NamedFunctions.Proofs.StoreIndex
import NamedFunctions.Proofs.PipelineShape
import NamedFunctions.Proofs.PipelineComposition
import NamedFunctions.Proofs.PublicationOrder
import NamedFunctions.Proofs.FlightTable
import NamedFunctions.Proofs.FlightExclusion
import NamedFunctions.Proofs.FlightProgress
import NamedFunctions.Proofs.FlightDelivery
import NamedFunctions.Proofs.Candidates
import NamedFunctions.Proofs.MissingNames
import NamedFunctions.Proofs.SettledNames
import NamedFunctions.Proofs.RegisteredNames
import NamedFunctions.Proofs.DiscoveryOrder
import NamedFunctions.Proofs.NameStanding
import NamedFunctions.Proofs.DiscoveredOnce
import NamedFunctions.Proofs.ReachableNames
import NamedFunctions.Proofs.TransparentLayer
import NamedFunctions.Proofs.DiscoveryPriority
import NamedFunctions.Proofs.AliasGroups
import NamedFunctions.Proofs.UsableNames
import NamedFunctions.Proofs.DiscoveredFunctions
import NamedFunctions.Proofs.WholeRegistrations
import NamedFunctions.Proofs.ResolutionOutcomes
import NamedFunctions.Proofs.KnownBelow
import NamedFunctions.Proofs.AliasResolution
import NamedFunctions.Proofs.AliasTables
import NamedFunctions.Proofs.QualifierMatches
import NamedFunctions.Proofs.AdvertisedNames
import NamedFunctions.Proofs.PublicationProgress
import NamedFunctions.Proofs.QuotedDocuments
import NamedFunctions.Proofs.DefaultDefinition
import NamedFunctions.Proofs.FirstOccurrences
import NamedFunctions.Proofs.RoutedGroups
import NamedFunctions.Proofs.AdaptedTargets
