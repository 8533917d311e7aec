import EntityGraph.Marker
import EntityGraph.Path
/-!
The name index: short names to full names. The first declaration of a short name, in scan order, is
the one that the name stands for; a full name always stands for itself.
-/

namespace EntityGraph

structure ScannedFile where
  path : Path
  relativePath : String
  contentHash : String
  declarations : List Declaration
  damaged : Bool

namespace ScannedFile

def allDeclarations (f : ScannedFile) : List Declaration :=
  f.declarations.flatMap Declaration.walk

end ScannedFile

def corpus (files : List ScannedFile) : List Declaration :=
  files.flatMap ScannedFile.allDeclarations

structure NameIndex where
  names : Catalog String
  fullNames : List String

namespace NameIndex

def ofDeclarations (ds : List Declaration) : NameIndex where
  names := Catalog.ofListFirst (ds.map fun d => (d.shortName, d.fullName))
  fullNames := ds.map (·.fullName)

def build (files : List ScannedFile) : NameIndex :=
  ofDeclarations (corpus files)

def shadowed (files : List ScannedFile) : Nat :=
  let index := build files
  ((corpus files).filter fun d => index.names.find? d.shortName != some d.fullName).length

def unaliased (text : String) : List Char :=
  let cs := Text.trim text.toList
  (Text.stripStart? "global::".toList cs).getD cs

/-- A constructed generic type stands for nothing. -/
def resolve (index : NameIndex) (text : String) : Option String :=
  if '<' ∈ Text.trim text.toList then none
  else
    let name := unaliased text
    if '.' ∈ name ∧ String.ofList name ∈ index.fullNames then some (String.ofList name)
    else
      let short := TypeName.short name
      if short.isEmpty then none else index.names.find? (String.ofList short)

def isEmpty (index : NameIndex) : Bool :=
  index.names.entries.isEmpty

end NameIndex

end EntityGraph
