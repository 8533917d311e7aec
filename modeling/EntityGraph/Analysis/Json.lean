import EntityGraph.Analysis
import EntityGraph.Config.Json
import EntityGraph.Exchange

namespace EntityGraph

namespace ScannedFile

def header (f : ScannedFile) : List (String × Json) :=
  [("path", .ofString f.path.display), ("relative_path", .ofString f.relativePath),
    ("content_hash", .ofString f.contentHash)]

def toJson (f : ScannedFile) : Json :=
  .ofMembers (f.header ++ [("declarations", .array (f.declarations.map Declaration.toJson))])

end ScannedFile

def Unreadable.toJson (u : Unreadable) : Json :=
  .ofMembers [("path", .ofString u.path.display), ("message", .ofString u.message)]

def Scan.toJson (s : Scan) : Json :=
  .ofMembers [("files", .array (s.files.map ScannedFile.toJson)),
    ("diagnostics", .array (s.unreadable.map Unreadable.toJson))]

namespace Report

def fields (r : Report) : List (String × Json) :=
  [("files_scanned", .ofNat r.filesScanned), ("files_failed", .ofNat r.filesFailed),
    ("components", .ofNat r.components), ("systems", .ofNat r.systems),
    ("skipped_debug_systems", .ofNat r.skippedDebugSystems),
    ("unresolved_references", .ofNat r.unresolvedReferences),
    ("corpus_digest", .ofString r.corpusDigest)]

def toJson (r : Report) : Json := .ofMembers r.fields

end Report

def Analysis.toJson (a : Analysis) (c : Config) : Json :=
  .ofMembers [("config", c.toJson),
    ("files", .array (a.files.map fun f => .ofMembers f.header)),
    ("diagnostics", .array (a.unreadable.map Unreadable.toJson)),
    ("index", a.index.toJson),
    ("components", .array (a.components.map ComponentType.toJson)),
    ("systems", .array (a.discovery.systems.map SystemType.toJson)),
    ("backlinks", a.backlinks.toJson), ("graph", a.graph.toJson), ("report", a.report.toJson)]

end EntityGraph
