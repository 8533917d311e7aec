import EntityGraph.ComponentType
/-!
System types. A part of a system is a declaration whose full name carries the system marker
somewhere in the corpus. Its component references stand in the handle struct nested in it, its
system references in the calls of its creation method.
-/

namespace EntityGraph

structure SystemType where
  name : String
  componentTypes : List String
  usesSystems : List String
  deriving DecidableEq, Repr

structure UnresolvedReference where
  owner : String
  text : String
  deriving DecidableEq, Repr

structure Discovery where
  systems : List SystemType
  skippedDebugSystems : Nat
  unresolved : List UnresolvedReference

def handleGenerics : List String := ["ComponentTypeHandle", "ComponentLookup"]

def handleStructName : String := "TypeHandle"
def creationMethodName : String := "OnCreate"
def systemGetterName : String := "GetOrCreateSystemManaged"
def debugMarker : String := "Debug"

def keepsSystem (skipDebug : Bool) (name : String) : Bool :=
  !(skipDebug && Text.occursIn debugMarker.toList name.toList)

namespace Declaration

def handleStruct? (d : Declaration) : Option Declaration :=
  d.inner.find? fun n => n.kind = .structType ∧ n.shortName = handleStructName

def handleArgument? (f : FieldStatement) : Option String :=
  handleGenerics.findSome? f.type.firstArgumentOf

def componentReferences (d : Declaration) : List String :=
  match d.handleStruct? with
  | none => []
  | some handle => handle.fields.filterMap handleArgument?

def systemReferences (d : Declaration) : List String :=
  match d.findMethod? creationMethodName with
  | none => []
  | some body =>
      (body.invocations.filter (·.member = systemGetterName)).filterMap (·.typeArguments.head?)

end Declaration

namespace SystemType

def ofDeclaration (index : NameIndex) (d : Declaration) : SystemType where
  name := d.fullName
  componentTypes := d.componentReferences.filterMap index.resolve
  usesSystems := d.systemReferences.filterMap index.resolve

def combine (s part : SystemType) : SystemType :=
  { s with
    componentTypes := s.componentTypes ++ part.componentTypes
    usesSystems := s.usesSystems ++ part.usesSystems }

def partDeclarations (files : List ScannedFile) (skipDebug : Bool) : List Declaration :=
  let marked := markedNames files .system
  (corpus files).filter fun d => d.fullName ∈ marked ∧ keepsSystem skipDebug d.fullName

def parts (files : List ScannedFile) (index : NameIndex) (skipDebug : Bool) : List SystemType :=
  (partDeclarations files skipDebug).map (ofDeclaration index)

def unresolvedIn (index : NameIndex) (d : Declaration) : List UnresolvedReference :=
  ((d.componentReferences ++ d.systemReferences).filter (index.resolve · = none)).map
    (⟨d.fullName, ·⟩)

end SystemType

/-- The systems of a corpus. References are resolved through `index`, which may be of any corpus. -/
def discoverSystems (files : List ScannedFile) (index : NameIndex) (skipDebug : Bool) :
    Discovery where
  systems := Merge.byName (·.name) SystemType.combine (SystemType.parts files index skipDebug)
  skippedDebugSystems :=
    ((markedNames files .system).eraseDups.filter (!keepsSystem skipDebug ·)).length
  unresolved := (SystemType.partDeclarations files skipDebug).flatMap (SystemType.unresolvedIn index)

end EntityGraph
