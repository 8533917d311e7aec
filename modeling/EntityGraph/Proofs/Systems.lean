import EntityGraph.SystemType
import EntityGraph.Proofs.ScanOrder

namespace EntityGraph

def Kept (skipDebug : Bool) (name : String) : Prop :=
  skipDebug = true → ¬"Debug".toList <:+: name.toList

theorem keepsSystem_iff {skipDebug : Bool} {name : String} :
    keepsSystem skipDebug name = true ↔ Kept skipDebug name := by
  unfold keepsSystem Kept
  rw [← Text.occursIn_iff]
  cases skipDebug <;> simp [debugMarker]

instance (skipDebug : Bool) : DecidablePred (Kept skipDebug) := fun _ =>
  decidable_of_iff _ keepsSystem_iff

def IsPart (files : List ScannedFile) (skipDebug : Bool) (d : Declaration) : Prop :=
  Carries files .system d.fullName ∧ Kept skipDebug d.fullName

instance (files : List ScannedFile) (skipDebug : Bool) : DecidablePred (IsPart files skipDebug) :=
  fun d => inferInstanceAs (Decidable (Carries files .system d.fullName ∧ Kept skipDebug d.fullName))

def systemParts (files : List ScannedFile) (skipDebug : Bool) : List Declaration :=
  (scanOrder files).filter (IsPart files skipDebug ·)

def FieldStatement.handled? (f : FieldStatement) : Option String :=
  match f.type with
  | .generic name (argument :: _) =>
      if name = "ComponentTypeHandle" ∨ name = "ComponentLookup" then some argument else none
  | _ => none

def Invocation.requested? (call : Invocation) : Option String :=
  match call.typeArguments with
  | argument :: _ => if call.member = "GetOrCreateSystemManaged" then some argument else none
  | [] => none

namespace Declaration

def handleBelow? (d : Declaration) : Option Declaration :=
  (preorderAll d.nested).find? fun n => n.kind = .structType ∧ n.shortName = "TypeHandle"

def creationWithin? (d : Declaration) : Option MethodBody :=
  d.preorder.findSome? (·.methods.find? "OnCreate")

def handledTexts (d : Declaration) : List String :=
  match d.handleBelow? with
  | none => []
  | some handle => handle.fields.filterMap FieldStatement.handled?

def requestedTexts (d : Declaration) : List String :=
  match d.creationWithin? with
  | none => []
  | some body => body.invocations.filterMap Invocation.requested?

theorem handleArgument?_eq (f : FieldStatement) : handleArgument? f = f.handled? := by
  unfold handleArgument? FieldStatement.handled? handleGenerics
  cases f.type with
  | plain text => rfl
  | generic name arguments =>
      cases arguments with
      | nil => simp [TypeSyntax.firstArgumentOf]
      | cons argument arguments =>
          by_cases h : name = "ComponentTypeHandle"
          · simp [TypeSyntax.firstArgumentOf, h]
          · by_cases h' : name = "ComponentLookup" <;> simp [TypeSyntax.firstArgumentOf, h, h']

theorem componentReferences_eq (d : Declaration) : d.componentReferences = d.handledTexts := by
  have hbelow : d.handleStruct? = d.handleBelow? := by
    rw [handleStruct?, inner_eq]
    rfl
  rw [componentReferences, handledTexts, hbelow]
  cases d.handleBelow? with
  | none => rfl
  | some handle => exact congrArg handle.fields.filterMap (funext handleArgument?_eq)

theorem filterMap_requested (calls : List Invocation) :
    (calls.filter (·.member = systemGetterName)).filterMap (·.typeArguments.head?) =
      calls.filterMap Invocation.requested? := by
  induction calls with
  | nil => rfl
  | cons call calls ih =>
      by_cases h : call.member = systemGetterName
      · rw [List.filter_cons_of_pos (by simpa using h), List.filterMap_cons, List.filterMap_cons, ih]
        have hcall : call.requested? = call.typeArguments.head? := by
          unfold Invocation.requested?
          cases call.typeArguments with
          | nil => rfl
          | cons argument arguments => exact if_pos h
        rw [hcall]
      · have hcall : call.requested? = none := by
          unfold Invocation.requested?
          cases call.typeArguments with
          | nil => rfl
          | cons argument arguments => exact if_neg h
        rw [List.filter_cons_of_neg (by simpa using h), List.filterMap_cons_none hcall, ih]

theorem systemReferences_eq (d : Declaration) : d.systemReferences = d.requestedTexts := by
  have hwithin : d.findMethod? creationMethodName = d.creationWithin? := by
    rw [findMethod?, walk_eq_preorder]
    rfl
  rw [systemReferences, requestedTexts, hwithin]
  cases d.creationWithin? with
  | none => rfl
  | some body => exact filterMap_requested body.invocations

end Declaration

namespace SystemType

structure Collected (files : List ScannedFile) (index : NameIndex) (skipDebug : Bool)
    (systems : List SystemType) : Prop where
  firstSeen : Merge.FirstSeen ((systemParts files skipDebug).map (·.fullName))
    (systems.map (·.name))
  componentTypes : ∀ s ∈ systems, s.componentTypes =
    ((systemParts files skipDebug).filter (·.fullName = s.name)).flatMap
      fun d => d.handledTexts.filterMap index.resolve
  usesSystems : ∀ s ∈ systems, s.usesSystems =
    ((systemParts files skipDebug).filter (·.fullName = s.name)).flatMap
      fun d => d.requestedTexts.filterMap index.resolve

section Discovery

variable (files : List ScannedFile) (index : NameIndex) (skipDebug : Bool)

theorem name_ofDeclaration (d : Declaration) : (ofDeclaration index d).name = d.fullName := rfl

theorem name_combine (s part : SystemType) : (combine s part).name = s.name := rfl

theorem componentTypes_combine (s part : SystemType) :
    (combine s part).componentTypes = s.componentTypes ++ part.componentTypes := rfl

theorem usesSystems_combine (s part : SystemType) :
    (combine s part).usesSystems = s.usesSystems ++ part.usesSystems := rfl

theorem componentTypes_ofDeclaration (d : Declaration) :
    (ofDeclaration index d).componentTypes = d.handledTexts.filterMap index.resolve := by
  rw [ofDeclaration, Declaration.componentReferences_eq]

theorem usesSystems_ofDeclaration (d : Declaration) :
    (ofDeclaration index d).usesSystems = d.requestedTexts.filterMap index.resolve := by
  rw [ofDeclaration, Declaration.systemReferences_eq]

theorem partDeclarations_eq : partDeclarations files skipDebug = systemParts files skipDebug := by
  unfold partDeclarations systemParts
  rw [corpus_eq_scanOrder]
  refine List.filter_congr ?_
  intro d _
  rw [decide_eq_decide, mem_markedNames, keepsSystem_iff]
  rfl

theorem systems_discoverSystems :
    (discoverSystems files index skipDebug).systems =
      Merge.byName (·.name) combine ((systemParts files skipDebug).map (ofDeclaration index)) := by
  rw [discoverSystems, parts, partDeclarations_eq]

theorem firstSeen_discoverSystems :
    Merge.FirstSeen ((systemParts files skipDebug).map (·.fullName))
      ((discoverSystems files index skipDebug).systems.map (·.name)) := by
  rw [systems_discoverSystems]
  exact Merge.firstSeen_byName_map (name_ofDeclaration index) name_combine _

theorem collected_discoverSystems :
    Collected files index skipDebug (discoverSystems files index skipDebug).systems where
  firstSeen := firstSeen_discoverSystems files index skipDebug
  componentTypes := by
    intro s hs
    rw [systems_discoverSystems] at hs
    rw [Merge.part_of_mem_byName_map (name_ofDeclaration index) name_combine
      componentTypes_combine hs, funext (componentTypes_ofDeclaration index)]
  usesSystems := by
    intro s hs
    rw [systems_discoverSystems] at hs
    rw [Merge.part_of_mem_byName_map (name_ofDeclaration index) name_combine
      usesSystems_combine hs, funext (usesSystems_ofDeclaration index)]

end Discovery

end SystemType

end EntityGraph
