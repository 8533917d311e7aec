import EntityGraph.Config.Toml
import EntityGraph.FileTree.Resolve

namespace EntityGraph

inductive AnalysisError where
  | rootMissing (path : Path)
  | rootNotDirectory (path : Path)
  | file (path : Path) (cause : FileError)
  | config (path : Path) (cause : ConfigError)

def AnalysisError.message : AnalysisError → String
  | .rootMissing path => "Source root does not exist: " ++ path.display
  | .rootNotDirectory path => "Source root is not a directory: " ++ path.display
  | .file path cause => "IO error at " ++ path.display ++ ": " ++ cause.message
  | .config path cause => "Configuration error in " ++ path.display ++ ": " ++ cause.message

end EntityGraph
