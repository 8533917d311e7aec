import EntityGraph.Analysis.Events
import EntityGraph.Analysis.Json
import EntityGraph.Command
import EntityGraph.Proofs.Accounting
import EntityGraph.Proofs.DeclaredTypes
import EntityGraph.Proofs.SameCorpus
import EntityGraph.Proofs.DebugSystems
import EntityGraph.Proofs.NameIndex
import EntityGraph.Proofs.FileOrder
import EntityGraph.Proofs.JsonText
import EntityGraph.Proofs.Documents
import EntityGraph.Proofs.Search
import EntityGraph.Proofs.SecondRun
import EntityGraph.Proofs.FoundFiles
import EntityGraph.Proofs.NamespaceForms
import EntityGraph.Proofs.WrappedItems
import EntityGraph.Proofs.FieldPlaces
import EntityGraph.Proofs.Resolution
import EntityGraph.Proofs.ShortNames
import EntityGraph.Proofs.Narrowing
import EntityGraph.Proofs.DirectoryPatterns
import EntityGraph.Proofs.ByteOrderMark
import EntityGraph.Proofs.CorpusDigest
import EntityGraph.Proofs.ExactMatch
import EntityGraph.Proofs.FramedReplacement
import EntityGraph.Proofs.RelativePaths
import EntityGraph.Proofs.Walk
