import EntityGraph.Enumeration
import EntityGraph.FileTree.Replace
import EntityGraph.Document
import EntityGraph.IgnorePattern.File
import EntityGraph.Scan

namespace EntityGraph

structure Report where
  filesScanned : Nat
  filesFailed : Nat
  components : Nat
  systems : Nat
  skippedDebugSystems : Nat
  unresolvedReferences : Nat
  corpusDigest : String
  deriving DecidableEq, Repr

def Report.summary (r : Report) : String :=
  s!"AnalysisReport(files_scanned={r.filesScanned}, files_failed={r.filesFailed}, " ++
    s!"components={r.components}, systems={r.systems})"

structure Analysis where
  files : List ScannedFile
  unreadable : List Unreadable
  index : NameIndex
  components : List ComponentType
  discovery : Discovery
  backlinks : Backlinks
  graph : Graph

namespace Analysis

def ofScan (skipDebug : Bool) (s : Scan) : Analysis :=
  let index := NameIndex.build s.files
  let components := ComponentType.extract s.files
  let discovery := discoverSystems s.files index skipDebug
  let backlinks := Backlinks.ofSystems discovery.systems
  { files := s.files
    unreadable := s.unreadable
    index, components, discovery, backlinks
    graph := Graph.build components discovery.systems backlinks }

def ofFiles (skipDebug : Bool) (files : List ScannedFile) : Analysis :=
  ofScan skipDebug ⟨files, []⟩

def report (a : Analysis) : Report where
  filesScanned := a.files.length
  filesFailed := a.unreadable.length
  components := a.graph.components.size
  systems := a.graph.systems.size
  skippedDebugSystems := a.discovery.skippedDebugSystems
  unresolvedReferences := a.discovery.unresolved.length
  corpusDigest := Scan.digest a.files

def patterns (t : FileTree) (c : Config) : List IgnorePattern :=
  match IgnorePattern.load t c.sourceRoot c.ignoreFile with
  | .ok patterns => patterns
  | .error _ => []

def enumerate (t : FileTree) (c : Config) : Except AnalysisError Enumeration :=
  Enumeration.enumerate t c.sourceRoot c.extension (patterns t c)

/-- The analysis of the source root. What a number of threads asks for, a pool of workers that may
fail to be built, is left out: the analysis runs as if there were one. -/
def ofTree (t : FileTree) (c : Config) : Except AnalysisError Analysis :=
  (enumerate t c).map fun e => ofScan c.skipDebugSystems (Scan.ofFiles t c.sourceRoot e.files)

end Analysis

namespace Graph

def contentOf (text : String) : List UInt8 := Utf8.ofString text ++ [0x0A]

def replaceDocument (t : FileTree) (p : Path) (text : String) :
    FileTree × Except AnalysisError Unit :=
  match t.replace p (contentOf text) with
  | (t', .ok ()) => (t', .ok ())
  | (t', .error e) => (t', .error (.file e.path e.cause))

def write (g : Graph) (t : FileTree) (c : Config) : FileTree × Except AnalysisError Unit :=
  match replaceDocument t c.componentsOutput g.componentsText with
  | (t', .error e) => (t', .error e)
  | (t', .ok ()) => replaceDocument t' c.systemsOutput g.systemsText

end Graph

def run (t : FileTree) (c : Config) : FileTree × Except AnalysisError Report :=
  match Analysis.ofTree t c with
  | .error e => (t, .error e)
  | .ok a =>
      match a.graph.write t c with
      | (t', .error e) => (t', .error e)
      | (t', .ok ()) => (t', .ok a.report)

end EntityGraph
