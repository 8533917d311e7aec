import EntityGraph.FileTree.Access
import EntityGraph.IgnorePattern
/-!
Ignore patterns from a file in the source root. A file that cannot be reached has none.
-/

namespace EntityGraph

structure UnreadablePatterns where
  path : Path
  cause : FileError
  deriving DecidableEq, Repr

def UnreadablePatterns.message (e : UnreadablePatterns) : String :=
  "Failed to read " ++ e.path.display ++ ": " ++ e.cause.message

namespace IgnorePattern

def load (t : FileTree) (root : Path) (file : String) :
    Except UnreadablePatterns (List IgnorePattern) :=
  let path := root.join (.ofString file)
  match t.locate path with
  | .error _ => .ok []
  | .ok _ =>
      match t.readText path with
      | .error e => .error ⟨path, e⟩
      | .ok text => .ok (parseAll text)

end IgnorePattern

end EntityGraph
