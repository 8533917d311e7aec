import EntityGraph.AnalysisError
import EntityGraph.FileTree.Access

namespace EntityGraph.Config

def load (t : FileTree) (path : Path) : Except AnalysisError Config :=
  match t.readText path with
  | .error e => .error (.file path e)
  | .ok text =>
      match ofToml text with
      | .error e => .error (.config path e)
      | .ok c => .ok (c.rebase ((path.parent?).getD ⟨[]⟩))

end EntityGraph.Config
