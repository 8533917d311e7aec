import EntityGraph.AnalysisError
import EntityGraph.FileTree.Access
import EntityGraph.IgnorePattern
/-!
The source files below a root, in the order of their names at every level. Links are followed, but
none to a directory that the way to it already leads through.
-/

namespace EntityGraph

inductive WalkError where
  | unreadable (path : Option Path) (cause : FileError)
  | loop (link ancestor : Path)
  deriving DecidableEq, Repr

def WalkError.message : WalkError → String
  | .unreadable none cause => cause.message
  | .unreadable (some path) cause =>
      "IO error for operation on " ++ path.display ++ ": " ++ cause.message
  | .loop link ancestor =>
      "File system loop found: " ++ link.display ++ " points to an ancestor " ++ ancestor.display

inductive Visit where
  | file (path : Path)
  | failed (error : WalkError)
  deriving DecidableEq, Repr

namespace Visit

def file? : Visit → Option Path
  | file path => some path
  | _ => none

def error? : Visit → Option WalkError
  | failed e => some e
  | _ => none

end Visit

namespace Enumeration

structure Waypoint where
  path : Path
  location : Location
  deriving DecidableEq, Repr

def visit (t : FileTree) (go : List Waypoint → Waypoint → List Visit) (way : List Waypoint)
    (at_ : Waypoint) (entry : Name × Entry) : List Visit :=
  let path := at_.path.joinName entry.1
  match entry.2 with
  | .file .. => [.file path]
  | .directory _ => go way ⟨path, entry.1 :: at_.location⟩
  | .link _ =>
      match t.locate path with
      | .error e => [.failed (.unreadable (some path) e)]
      | .ok (target, .directory rights) =>
          if !rights.read then [.failed (.unreadable none .denied)]
          else
            match way.find? (·.location = target) with
            | some ancestor => [.failed (.loop path ancestor.path)]
            | none => go way ⟨path, target⟩
      | .ok _ => [.file path]

def walk (t : FileTree) : Nat → List Waypoint → Waypoint → List Visit
  | 0, _, _ => []
  | fuel + 1, way, here =>
      match t.list here.path with
      | .error e => [.failed (.unreadable (some here.path) e)]
      | .ok entries => entries.flatMap (visit t (walk t fuel) (here :: way) here)

def openRoot (t : FileTree) (root : Path) : Except AnalysisError Location :=
  match t.locate root with
  | .error .notFound => .error (.rootMissing root)
  | .error e => .error (.file root e)
  | .ok (_, e) =>
      if !e.isDirectory then .error (.rootNotDirectory root)
      else
        match t.openDirectory root with
        | .error e => .error (.file root e)
        | .ok loc => .ok loc

end Enumeration

structure Enumeration where
  files : List Path
  ignored : List Path
  failures : List WalkError

namespace Enumeration

def below (root path : Path) : Path :=
  (path.relativeTo? root).getD path

def ofVisits (root : Path) (extension : String) (patterns : List IgnorePattern)
    (visits : List Visit) : Enumeration :=
  let sources := (visits.filterMap Visit.file?).filter (·.isSourceFile extension)
  { files := sources.filter fun p => !isIgnored (below root p) patterns
    ignored := (sources.filter fun p => isIgnored (below root p) patterns).map (below root)
    failures := visits.filterMap Visit.error? }

/-- Every step of a walk makes the path longer, and a path that is too long leads nowhere. -/
def enumerate (t : FileTree) (root : Path) (extension : String) (patterns : List IgnorePattern) :
    Except AnalysisError Enumeration :=
  (openRoot t root).map fun loc =>
    ofVisits root extension patterns (walk t FileTree.pathLimit [] ⟨root, loc⟩)

end Enumeration

end EntityGraph
