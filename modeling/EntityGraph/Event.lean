import EntityGraph.SystemType

namespace EntityGraph

inductive Level where
  | warn
  | info
  | debug
  deriving DecidableEq, Repr

def Level.label : Level → String
  | .warn => "WARN"
  | .info => "INFO"
  | .debug => "DEBUG"

inductive Event where
  | syntaxErrors (path : Path)
  | indexBuilt (names shadowed : Nat)
  | partMerged (name : String)
  | componentsFound (count : Nat)
  | systemsFound (count : Nat)
  | debugSystemsSkipped (count : Nat)
  | referenceUnresolved (reference : UnresolvedReference)
  | patternsLoaded (count : Nat) (path : Path)
  | patternsUnreadable (reason : String)
  | fileIgnored (relative : Path)
  | entryUnreadable (root : Path) (reason : String)
  | filesDiscovered (count : Nat) (root : Path)
  | fileSkipped (name reason : String)
  | filesScanned (scanned skipped : Nat)
  | analyzed (root : Path) (components systems : Nat)
  | exported (components : Nat) (componentsPath : Path) (systems : Nat) (systemsPath : Path)
  deriving DecidableEq, Repr

namespace Event

def level : Event → Level
  | .patternsUnreadable _ | .entryUnreadable .. | .fileSkipped .. => .warn
  | .componentsFound _ | .systemsFound _ | .filesScanned .. | .analyzed .. | .exported .. => .info
  | _ => .debug

/-- The time that an analysis took is not told: a low line stands for it. -/
def message : Event → String
  | .syntaxErrors path => "Syntax errors in " ++ path.display ++ ", keeping recovered declarations"
  | .indexBuilt names shadowed =>
      s!"Built name index with {names} short names ({shadowed} shadowed duplicates)"
  | .partMerged name => "Merging partial declaration of " ++ name
  | .componentsFound count => s!"Found {count} Components"
  | .systemsFound count => s!"Found {count} Systems"
  | .debugSystemsSkipped count => s!"Skipped {count} debug systems"
  | .referenceUnresolved r => r.owner ++ ": unresolved reference to " ++ r.text
  | .patternsLoaded count path => s!"Loaded {count} ignore patterns from " ++ path.display
  | .patternsUnreadable reason => reason ++ "; continuing without ignore patterns"
  | .fileIgnored relative => "Ignoring " ++ relative.display
  | .entryUnreadable root reason =>
      "Skipping unreadable entry under " ++ root.display ++ ": " ++ reason
  | .filesDiscovered count root => s!"Discovered {count} source files under " ++ root.display
  | .fileSkipped name reason => "Skipping " ++ name ++ ": " ++ reason
  | .filesScanned scanned skipped => s!"Scanned {scanned} files ({skipped} skipped)"
  | .analyzed root components systems =>
      "Analyzed " ++ root.display ++ s!" in _: {components} components, {systems} systems"
  | .exported components componentsPath systems systemsPath =>
      s!"Exported {components} components to " ++ componentsPath.display ++
        s!" and {systems} systems to " ++ systemsPath.display

def line (e : Event) : String :=
  e.level.label ++ " " ++ e.message

end Event

def NameIndex.events (files : List ScannedFile) : List Event :=
  [.indexBuilt (NameIndex.build files).names.size (NameIndex.shadowed files)]

def ComponentType.events (files : List ScannedFile) : List Event :=
  (Merge.repeats ((parts files).map (·.name))).map .partMerged ++
    [.componentsFound (extract files).length]

def Discovery.events (files : List ScannedFile) (index : NameIndex) (skipDebug : Bool) :
    List Event :=
  let d := discoverSystems files index skipDebug
  (Merge.repeats ((SystemType.parts files index skipDebug).map (·.name))).map .partMerged ++
    d.unresolved.map .referenceUnresolved ++ [.systemsFound d.systems.length] ++
    (if d.skippedDebugSystems = 0 then [] else [.debugSystemsSkipped d.skippedDebugSystems])

end EntityGraph
