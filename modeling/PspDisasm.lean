import PspDisasm.AnalysisCache
import PspDisasm.AnalysisPack
import PspDisasm.Analyzer
import PspDisasm.DataTyping.AggregateTyping
import PspDisasm.DataTyping.Aggregates
import PspDisasm.DataTyping.Conflicts
import PspDisasm.DataTyping.Inference
import PspDisasm.DataTyping.LeafEvidence
import PspDisasm.DataTyping.PointerRuns
import PspDisasm.DataTyping.PointerTables
import PspDisasm.DataTyping.PointerTyping
import PspDisasm.DataTyping.Records
import PspDisasm.DataTyping.StandaloneLeaves
import PspDisasm.Decompile.ArtifactRuns
import PspDisasm.Decompile.AttemptArtifacts
import PspDisasm.Decompile.AttemptIdentity
import PspDisasm.Decompile.AttemptLog
import PspDisasm.Decompile.Attempts
import PspDisasm.Decompile.Batch
import PspDisasm.Decompile.BestStatus
import PspDisasm.Decompile.DecompileRuns
import PspDisasm.Decompile.History
import PspDisasm.Decompile.LimitedRuns
import PspDisasm.Decompile.Orchestrator
import PspDisasm.Decompile.ProjectReaders
import PspDisasm.Decompile.Queue
import PspDisasm.Decompile.Rediscovery
import PspDisasm.Decompile.Resume
import PspDisasm.Decompile.RuntimeStatus
import PspDisasm.Decompile.Selection
import PspDisasm.Decompile.State
import PspDisasm.Decompile.StateValues
import PspDisasm.Decompile.Store
import PspDisasm.Decompile.StoreLaws
import PspDisasm.Decompile.StoreShape
import PspDisasm.Decompile.ToolCalls
import PspDisasm.Decompile.Toolchain
import PspDisasm.Disc.Classification
import PspDisasm.Disc.CsoFailures
import PspDisasm.Disc.CsoReader
import PspDisasm.Disc.CsoRefinement
import PspDisasm.Disc.CsoStream
import PspDisasm.Disc.GameScan
import PspDisasm.Disc.ParamSfo
import PspDisasm.Disc.SfoLayout
import PspDisasm.Elf32
import PspDisasm.Elf32Layout
import PspDisasm.Engines.Advanced
import PspDisasm.Engines.Spim
import PspDisasm.Engines.SpimStrings
import PspDisasm.Engines.SpimTables
import PspDisasm.Engines.TypedObjects
import PspDisasm.Foundations.AddressSpans
import PspDisasm.Foundations.BitFields
import PspDisasm.Foundations.BoundedQueue
import PspDisasm.Foundations.ByteWindows
import PspDisasm.Foundations.ByteWords
import PspDisasm.Foundations.Dict
import PspDisasm.Foundations.DiskOps
import PspDisasm.Foundations.Effects
import PspDisasm.Foundations.FieldRecords
import PspDisasm.Foundations.FirstByKey
import PspDisasm.Foundations.FirstFit
import PspDisasm.Foundations.FirstLeast
import PspDisasm.Foundations.GreedyScan
import PspDisasm.Foundations.Grouping
import PspDisasm.Foundations.HalfWords
import PspDisasm.Foundations.InterruptedStream
import PspDisasm.Foundations.KeyedMerge
import PspDisasm.Foundations.LatestByKey
import PspDisasm.Foundations.LimitedRounds
import PspDisasm.Foundations.Lockstep
import PspDisasm.Foundations.Ordinals
import PspDisasm.Foundations.Permutations
import PspDisasm.Foundations.Raising
import PspDisasm.Foundations.RecordTables
import PspDisasm.Foundations.ScoredChoice
import PspDisasm.Foundations.StableSort
import PspDisasm.Foundations.TwoRuns
import PspDisasm.Foundations.Verdicts
import PspDisasm.Foundations.WhileLoop
import PspDisasm.Foundations.WriteLog
import PspDisasm.FrontEndErrors
import PspDisasm.GameIsolation
import PspDisasm.GameProject
import PspDisasm.GameTree
import PspDisasm.GameTreeResults
import PspDisasm.GameTreeRuns
import PspDisasm.LibraryTables
import PspDisasm.LibraryWalks
import PspDisasm.Linker.CsvRows
import PspDisasm.Linker.Exporters
import PspDisasm.Linker.Labels
import PspDisasm.Linker.LinkNames
import PspDisasm.Linker.ModuleLinks
import PspDisasm.Linker.NidCacheKey
import PspDisasm.Linker.NidFiles
import PspDisasm.Linker.Propagation
import PspDisasm.LoadView
import PspDisasm.LoadViewBounds
import PspDisasm.LoadViewErrors
import PspDisasm.LoadViewFrame
import PspDisasm.LoadViewLayout
import PspDisasm.LoadViewMetadata
import PspDisasm.LoadViewTranslation
import PspDisasm.Matching.ReferenceObject
import PspDisasm.Matching.ReferenceParse
import PspDisasm.Model
import PspDisasm.ModelAddresses
import PspDisasm.PackBudget
import PspDisasm.PackEvidence
import PspDisasm.PackResults
import PspDisasm.Placement
import PspDisasm.PlacementFit
import PspDisasm.PlacementOrder
import PspDisasm.PlacementPlan
import PspDisasm.PlacementSeparation
import PspDisasm.PosixPaths
import PspDisasm.Project.FlatImage
import PspDisasm.Project.Subsegments
import PspDisasm.Project.SymbolNames
import PspDisasm.Project.SymbolsFile
import PspDisasm.Prx
import PspDisasm.Prxreloc2
import PspDisasm.Prxreloc2Errors
import PspDisasm.Prxreloc2Grammar
import PspDisasm.Prxreloc2Locality
import PspDisasm.Prxreloc2RoundTrip
import PspDisasm.Prxreloc2Simulation
import PspDisasm.Prxreloc2Soundness
import PspDisasm.Prxreloc2Words
import PspDisasm.PythonText
import PspDisasm.PythonValues
import PspDisasm.Recovery
import PspDisasm.RecoveryBackends
import PspDisasm.RecoverySources
import PspDisasm.RelocationEntries
import PspDisasm.RelocationWords
import PspDisasm.Resources.AssetDiscovery
import PspDisasm.Resources.AssetLinks
import PspDisasm.Resources.ContainerSelection
import PspDisasm.Resources.DetectorLaws
import PspDisasm.Resources.ExtractionLedger
import PspDisasm.Resources.ExtractionPaths
import PspDisasm.Resources.ExtractionResults
import PspDisasm.Resources.GameResources
import PspDisasm.Resources.ResourceExtraction
import PspDisasm.Resources.ResourceFormats
import PspDisasm.Resources.ResourceReport
import PspDisasm.Resources.ResourceScan
import PspDisasm.Runtime.BreakpointRemoval
import PspDisasm.Runtime.CallRuns
import PspDisasm.Runtime.CallSites
import PspDisasm.Runtime.ClientFrames
import PspDisasm.Runtime.DebuggerProcess
import PspDisasm.Runtime.DeliveryLedger
import PspDisasm.Runtime.EventDelivery
import PspDisasm.Runtime.EvidencePersistence
import PspDisasm.Runtime.EvidenceRecords
import PspDisasm.Runtime.EvidenceStore
import PspDisasm.Runtime.FrameBoundaries
import PspDisasm.Runtime.Frames
import PspDisasm.Runtime.HostedSession
import PspDisasm.Runtime.MalformedEvidence
import PspDisasm.Runtime.Messages
import PspDisasm.Runtime.ModuleAttribution
import PspDisasm.Runtime.Reconciliation
import PspDisasm.Runtime.ReconciliationBatch
import PspDisasm.Runtime.RemovedObservation
import PspDisasm.Runtime.RequestRules
import PspDisasm.Runtime.ServerFrames
import PspDisasm.Runtime.Session
import PspDisasm.Runtime.SessionRelease
import PspDisasm.Runtime.SessionRules
import PspDisasm.Runtime.StaleHits
import PspDisasm.Runtime.Transport
import PspDisasm.SourceIdentity
import PspDisasm.SourceWalk
import PspDisasm.StreamReader
import PspDisasm.StrippedSections
import PspDisasm.VirtualReads
import PspDisasm.Workspace
import PspDisasm.WorkspaceSources
