import ToolDiscovery.Catalog.Index
import ToolDiscovery.Catalog.Reading
import ToolDiscovery.CommandLine.Run
import ToolDiscovery.Discovery.SearchTool
import ToolDiscovery.Main
import ToolDiscovery.Tool.Sample
import ToolDiscovery.Tool.Toolbox
import ToolDiscovery.Proofs.Searching
import ToolDiscovery.Proofs.Interleaving
import ToolDiscovery.Proofs.IndexOnce
import ToolDiscovery.Proofs.Visibility
import ToolDiscovery.Proofs.PositiveSums
import ToolDiscovery.Proofs.Rankings
import ToolDiscovery.Proofs.HybridFusion
import ToolDiscovery.Proofs.CorpusStatistics
import ToolDiscovery.Proofs.IndexBatches
import ToolDiscovery.Proofs.SearchOutcomes
import ToolDiscovery.Proofs.HybridRanking
import ToolDiscovery.Proofs.CheckedRequests
import ToolDiscovery.Proofs.CatalogRoundTrip
import ToolDiscovery.Proofs.RequestRoundTrip
import ToolDiscovery.Proofs.CommandSearches
import ToolDiscovery.Proofs.Deferral
import ToolDiscovery.Proofs.ShownTools
import ToolDiscovery.Proofs.UnlockedTools
import ToolDiscovery.Proofs.Registration
import ToolDiscovery.Proofs.ResultLimits
import ToolDiscovery.Proofs.WordRankings
import ToolDiscovery.Proofs.ExactRelevance
import ToolDiscovery.Proofs.SearchFailures
import ToolDiscovery.Proofs.CatalogFaults
import ToolDiscovery.Proofs.SearchReports
import ToolDiscovery.Proofs.PatternRankings
import ToolDiscovery.Proofs.CatalogOrder
import ToolDiscovery.Proofs.Checkpoints
import ToolDiscovery.Proofs.DocumentTokens
import ToolDiscovery.Proofs.KeptStarts
import ToolDiscovery.Proofs.MaximalRuns
import ToolDiscovery.Proofs.PromptAdditions
import ToolDiscovery.Proofs.CollapsedTexts
import ToolDiscovery.Proofs.WrittenForms
import ToolDiscovery.Proofs.Lexemes
import ToolDiscovery.Proofs.RespelledTexts
import ToolDiscovery.Proofs.TextForms
import ToolDiscovery.Proofs.RespelledCatalogs
