import EntityGraph.Path

namespace EntityGraph

structure Config where
  sourceRoot : Path
  skipDebugSystems : Bool
  componentsOutput : Path
  systemsOutput : Path
  fileExtension : String
  threads : Option Nat
  ignoreFile : String
  deriving DecidableEq, Repr

namespace Config

def defaultComponentsOutput : Path := .ofString "data/Components.json"
def defaultSystemsOutput : Path := .ofString "data/Systems.json"
def defaultExtension : String := "cs"
def defaultIgnoreFile : String := ".atlasignore"

def forRoot (root : Path) : Config where
  sourceRoot := root
  skipDebugSystems := true
  componentsOutput := defaultComponentsOutput
  systemsOutput := defaultSystemsOutput
  fileExtension := defaultExtension
  threads := none
  ignoreFile := defaultIgnoreFile

def extension (c : Config) : String :=
  String.ofList (c.fileExtension.toList.dropWhile (· = '.'))

def rebase (c : Config) (base : Path) : Config :=
  { c with
    sourceRoot := base.join c.sourceRoot
    componentsOutput := base.join c.componentsOutput
    systemsOutput := base.join c.systemsOutput }

end Config

end EntityGraph
