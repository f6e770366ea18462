import PluginHost.Config.Json
import PluginHost.Loader.Scenario
import PluginHost.Proofs.BulkView
import PluginHost.Proofs.Deadlock
import PluginHost.Proofs.NameLoads
import PluginHost.Proofs.Provenance
import PluginHost.Text.Listing
import PluginHost.Proofs.InProgress
import PluginHost.Proofs.Directory
import PluginHost.Proofs.Linearizable
import PluginHost.Proofs.Shutdown
import PluginHost.Proofs.LeftOpen
import PluginHost.Proofs.FreshFailure
import PluginHost.Proofs.SearchedFiles
import PluginHost.Proofs.ClosingOrder
import PluginHost.Proofs.Termination
import PluginHost.Proofs.RegistrarCalls
import PluginHost.Proofs.Libraries
import PluginHost.Proofs.NameOutcome
import PluginHost.Proofs.BulkOutcome
import PluginHost.Proofs.KindFiles
import PluginHost.Proofs.ReentrantShutdown
import PluginHost.Proofs.FutileLookup
import PluginHost.Proofs.Catalog
import PluginHost.Proofs.EnvironmentSearch
import PluginHost.Proofs.KindListing
import PluginHost.Proofs.ConfigText
import PluginHost.Proofs.VersionText
