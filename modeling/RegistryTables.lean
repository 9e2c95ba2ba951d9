import RegistryTables.Inspect
import RegistryTables.Json.TypeEntry
import RegistryTables.Main
import RegistryTables.Text.Order
import RegistryTables.Proofs.FirstWriter
import RegistryTables.Proofs.RegistryHistory
import RegistryTables.Proofs.SortedLists
import RegistryTables.Proofs.ItemInfixes
import RegistryTables.Proofs.TagHistory
import RegistryTables.Proofs.BlockList
import RegistryTables.Proofs.ChosenBlocks
import RegistryTables.Proofs.ItemList
import RegistryTables.Proofs.LowerCase
import RegistryTables.Proofs.CrossReferencedItems
import RegistryTables.Proofs.RegisteredEntries
import RegistryTables.Proofs.RunCourse
import RegistryTables.Proofs.RunRegistries
import RegistryTables.Proofs.HeldObjects
import RegistryTables.Proofs.DomainIndependence
import RegistryTables.Proofs.TagBuild
import RegistryTables.Proofs.RunFailure
import RegistryTables.Proofs.StableOrder
import RegistryTables.Proofs.EnumerationOrder
import RegistryTables.Proofs.RunTags
import RegistryTables.Proofs.FirstRegistrations
import RegistryTables.Proofs.StrategyInputs
import RegistryTables.Proofs.Json.Numbers
import RegistryTables.Proofs.Json.Strings
import RegistryTables.Proofs.Json.Grammar
import RegistryTables.Proofs.Json.Tokens
import RegistryTables.Proofs.Json.RoundTrip
import RegistryTables.Proofs.Json.Shapes
import RegistryTables.Proofs.Json.Tables
import RegistryTables.Proofs.SourceLoading
import RegistryTables.Proofs.BlockClashes
import RegistryTables.Proofs.BuiltTags
import RegistryTables.Proofs.SoundNames
import RegistryTables.Proofs.InfixRemoval
import RegistryTables.Proofs.IdentifierParts
import RegistryTables.Proofs.Json.PassedOver
import RegistryTables.Proofs.Json.Entries
import RegistryTables.Proofs.SortedIteration
import RegistryTables.Proofs.ListOrders
