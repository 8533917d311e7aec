import EntityGraph.Analysis
import EntityGraph.Event

namespace EntityGraph

def IgnorePattern.events (t : FileTree) (root : Path) (file : String) : List Event :=
  match IgnorePattern.load t root file with
  | .error _ | .ok [] => []
  | .ok patterns => [.patternsLoaded patterns.length (root.join (.ofString file))]

def Enumeration.events (e : Enumeration) (root : Path) : List Event :=
  e.failures.map (fun f => .entryUnreadable root f.message) ++ e.ignored.map .fileIgnored ++
    [.filesDiscovered e.files.length root]

def ScannedFile.events (files : List ScannedFile) : List Event :=
  (files.filter (·.damaged)).map fun f => .syntaxErrors f.path

def Scan.events (s : Scan) (root : Path) : List Event :=
  ScannedFile.events s.files ++
    s.unreadable.map (fun u => .fileSkipped (u.path.displayBelow root) u.message) ++
    [.filesScanned s.files.length s.unreadable.length]

namespace Analysis

def patternEvents (t : FileTree) (c : Config) : List Event :=
  IgnorePattern.events t c.sourceRoot c.ignoreFile ++
    match IgnorePattern.load t c.sourceRoot c.ignoreFile with
    | .ok _ => []
    | .error e => [.patternsUnreadable e.message]

def extractionEvents (files : List ScannedFile) (index : NameIndex) (skipDebug : Bool) :
    List Event :=
  ComponentType.events files ++ Discovery.events files index skipDebug

def events (t : FileTree) (c : Config) : List Event :=
  patternEvents t c ++
    match enumerate t c with
    | .error _ => []
    | .ok e =>
        let s := Scan.ofFiles t c.sourceRoot e.files
        let a := ofScan c.skipDebugSystems s
        e.events c.sourceRoot ++ s.events c.sourceRoot ++ NameIndex.events s.files ++
          extractionEvents s.files a.index c.skipDebugSystems ++
          [.analyzed c.sourceRoot a.graph.components.size a.graph.systems.size]

end Analysis

def runEvents (t : FileTree) (c : Config) : List Event :=
  Analysis.events t c ++
    match run t c with
    | (_, .ok r) => [.exported r.components c.componentsOutput r.systems c.systemsOutput]
    | (_, .error _) => []

end EntityGraph
