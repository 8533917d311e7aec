import EntityGraph.Analysis
import EntityGraph.Proofs.Backlinks
import EntityGraph.Proofs.NameIndex

namespace EntityGraph

section Corpus

variable {files others : List ScannedFile} (h : files.Perm others)
include h

theorem carries_iff_of_perm {m : Marker} {name : String} :
    Carries files m name ↔ Carries others m name := by
  unfold Carries
  simp only [(perm_scanOrder h).mem_iff]

theorem perm_declarationsNamed (name : String) :
    (declarationsNamed files name).Perm (declarationsNamed others name) :=
  (perm_scanOrder h).filter _

theorem perm_systemParts (skipDebug : Bool) :
    (systemParts files skipDebug).Perm (systemParts others skipDebug) := by
  have hpart : ∀ d, IsPart files skipDebug d ↔ IsPart others skipDebug d := by
    intro d
    unfold IsPart
    rw [carries_iff_of_perm h]
  unfold systemParts
  simp only [hpart]
  exact (perm_scanOrder h).filter _

theorem mem_names_extract_iff_of_perm (name : String) :
    name ∈ (ComponentType.extract files).map (·.name) ↔
      name ∈ (ComponentType.extract others).map (·.name) := by
  rw [ComponentType.mem_names_extract, ComponentType.mem_names_extract, carries_iff_of_perm h]

end Corpus

namespace SystemType

section Resolve

variable {index other : NameIndex}
  (hresolve : ∀ text, index.resolve text = other.resolve text)
include hresolve

theorem ofDeclaration_congr : ofDeclaration index = ofDeclaration other := by
  have hfun : index.resolve = other.resolve := funext hresolve
  funext d
  rw [ofDeclaration, ofDeclaration, hfun]

theorem unresolvedIn_congr : unresolvedIn index = unresolvedIn other := by
  funext d
  unfold unresolvedIn
  simp only [hresolve]

end Resolve

theorem getD_find?_discoverSystems (files : List ScannedFile) (index : NameIndex)
    (skipDebug : Bool) {targets : SystemType → List String}
    (htargets : ∀ s part, targets (combine s part) = targets s ++ targets part) (name : String) :
    (((discoverSystems files index skipDebug).systems.find? (·.name = name)).map targets).getD [] =
      ((systemParts files skipDebug).filter (·.fullName = name)).flatMap
        fun d => targets (ofDeclaration index d) := by
  rw [systems_discoverSystems]
  exact Merge.getD_find?_byName_map (name_ofDeclaration index) name_combine htargets _ name

end SystemType

section Discovery

variable {files others : List ScannedFile} {index other : NameIndex}
  (h : files.Perm others) (hresolve : ∀ text, index.resolve text = other.resolve text)
  (skipDebug : Bool)
include h

theorem mem_names_discoverSystems_iff_of_perm (name : String) :
    name ∈ (discoverSystems files index skipDebug).systems.map (·.name) ↔
      name ∈ (discoverSystems others other skipDebug).systems.map (·.name) := by
  rw [(SystemType.firstSeen_discoverSystems files index skipDebug).mem_iff,
    (SystemType.firstSeen_discoverSystems others other skipDebug).mem_iff]
  exact ((perm_systemParts h skipDebug).map _).mem_iff

theorem skippedDebugSystems_of_perm :
    (discoverSystems files index skipDebug).skippedDebugSystems =
      (discoverSystems others other skipDebug).skippedDebugSystems := by
  refine List.Perm.length_eq (List.Perm.filter _ ?_)
  rw [List.perm_ext_iff_of_nodup (nodup_eraseDups _) (nodup_eraseDups _)]
  intro name
  rw [List.mem_eraseDups, List.mem_eraseDups, mem_markedNames, mem_markedNames,
    carries_iff_of_perm h]

include hresolve

theorem perm_references {targets : SystemType → List String}
    (htargets : ∀ s part, targets (SystemType.combine s part) = targets s ++ targets part)
    (name : String) :
    ((((discoverSystems files index skipDebug).systems.find? (·.name = name)).map
        targets).getD []).Perm
      ((((discoverSystems others other skipDebug).systems.find? (·.name = name)).map
        targets).getD []) := by
  rw [SystemType.getD_find?_discoverSystems files index skipDebug htargets,
    SystemType.getD_find?_discoverSystems others other skipDebug htargets,
    SystemType.ofDeclaration_congr hresolve]
  exact ((perm_systemParts h skipDebug).filter _).flatMap_right _

theorem perm_usersOf {targets : SystemType → List String}
    (htargets : ∀ s part, targets (SystemType.combine s part) = targets s ++ targets part)
    (key : String) :
    (Backlinks.usersOf targets (discoverSystems files index skipDebug).systems key).Perm
      (Backlinks.usersOf targets (discoverSystems others other skipDebug).systems key) := by
  have hfiles := (SystemType.firstSeen_discoverSystems files index skipDebug).nodup
  have hothers := (SystemType.firstSeen_discoverSystems others other skipDebug).nodup
  rw [List.perm_iff_count]
  intro user
  rw [Backlinks.count_usersOf targets hfiles, Backlinks.count_usersOf targets hothers]
  exact (perm_references h hresolve skipDebug htargets user).count_eq key

theorem perm_unresolved :
    (discoverSystems files index skipDebug).unresolved.Perm
      (discoverSystems others other skipDebug).unresolved := by
  rw [discoverSystems, discoverSystems, SystemType.partDeclarations_eq,
    SystemType.partDeclarations_eq, SystemType.unresolvedIn_congr hresolve]
  exact (perm_systemParts h skipDebug).flatMap_right _

end Discovery

structure ComponentNode.Alike (c other : ComponentNode) : Prop where
  name : c.name = other.name
  properties : c.properties.Perm other.properties
  usedBy : c.usedBy.Perm other.usedBy

structure SystemNode.Alike (s other : SystemNode) : Prop where
  name : s.name = other.name
  componentTypes : s.componentTypes.Perm other.componentTypes
  usesSystems : s.usesSystems.Perm other.usesSystems
  usedBy : s.usedBy.Perm other.usedBy

namespace Graph

structure Alike (g other : Graph) : Prop where
  componentKeys : g.components.keys = other.components.keys
  systemKeys : g.systems.keys = other.systems.keys
  components : ∀ key c c', g.components.find? key = some c →
    other.components.find? key = some c' → c.Alike c'
  systems : ∀ key s s', g.systems.find? key = some s →
    other.systems.find? key = some s' → s.Alike s'

theorem component_ofDiscovery {files : List ScannedFile} {d : Discovery} {key : String}
    {node : ComponentNode} (h : (ofDiscovery files d).components.find? key = some node) :
    node.name = key ∧
      node.properties = (declarationsNamed files key).flatMap
        (fun d => d.allFields.map FieldStatement.property) ∧
      node.usedBy = Backlinks.usersOf (·.componentTypes) d.systems key := by
  rw [ofDiscovery, find?_components_build (ComponentType.firstSeen_extract files).nodup,
    Option.map_eq_some_iff] at h
  obtain ⟨c, hc, rfl⟩ := h
  have hname : c.name = key := by simpa using List.find?_some hc
  subst hname
  refine ⟨rfl, ?_, Backlinks.componentUsers_ofSystems d.systems c.name⟩
  exact ComponentType.properties_of_mem_extract (List.mem_of_find?_eq_some hc)

theorem system_ofDiscovery {files : List ScannedFile} {d : Discovery} {key : String}
    {node : SystemNode} (hnodup : (d.systems.map (·.name)).Nodup)
    (h : (ofDiscovery files d).systems.find? key = some node) :
    node.name = key ∧
      node.componentTypes =
        ((d.systems.find? (·.name = key)).map (·.componentTypes)).getD [] ∧
      node.usesSystems = ((d.systems.find? (·.name = key)).map (·.usesSystems)).getD [] ∧
      node.usedBy = Backlinks.usersOf (·.usesSystems) d.systems key := by
  rw [ofDiscovery, find?_systems_build hnodup, Option.map_eq_some_iff] at h
  obtain ⟨s, hs, rfl⟩ := h
  have hname : s.name = key := by simpa using List.find?_some hs
  rw [hs]
  subst hname
  exact ⟨rfl, rfl, rfl, Backlinks.systemUsers_ofSystems d.systems s.name⟩

theorem alike_ofDiscovery {files others : List ScannedFile} {index other : NameIndex}
    (h : files.Perm others) (hresolve : ∀ text, index.resolve text = other.resolve text)
    (skipDebug : Bool) :
    (ofDiscovery files (discoverSystems files index skipDebug)).Alike
      (ofDiscovery others (discoverSystems others other skipDebug)) where
  componentKeys := by
    apply Catalog.keys_congr
    intro key
    rw [mem_keys_components_ofDiscovery, mem_keys_components_ofDiscovery,
      mem_names_extract_iff_of_perm h]
  systemKeys := by
    apply Catalog.keys_congr
    intro key
    rw [mem_keys_systems_ofDiscovery, mem_keys_systems_ofDiscovery,
      mem_names_discoverSystems_iff_of_perm h]
  components := by
    intro key c c' hc hc'
    obtain ⟨hname, hproperties, hused⟩ := component_ofDiscovery hc
    obtain ⟨hname', hproperties', hused'⟩ := component_ofDiscovery hc'
    refine ⟨hname.trans hname'.symm, ?_, ?_⟩
    · rw [hproperties, hproperties']
      exact (perm_declarationsNamed h key).flatMap_right _
    · rw [hused, hused']
      exact perm_usersOf h hresolve skipDebug SystemType.componentTypes_combine key
  systems := by
    intro key s s' hs hs'
    have hnodup := (SystemType.firstSeen_discoverSystems files index skipDebug).nodup
    have hnodup' := (SystemType.firstSeen_discoverSystems others other skipDebug).nodup
    obtain ⟨hname, hcomponents, huses, hused⟩ := system_ofDiscovery hnodup hs
    obtain ⟨hname', hcomponents', huses', hused'⟩ := system_ofDiscovery hnodup' hs'
    refine ⟨hname.trans hname'.symm, ?_, ?_, ?_⟩
    · rw [hcomponents, hcomponents']
      exact perm_references h hresolve skipDebug SystemType.componentTypes_combine key
    · rw [huses, huses']
      exact perm_references h hresolve skipDebug SystemType.usesSystems_combine key
    · rw [hused, hused']
      exact perm_usersOf h hresolve skipDebug SystemType.usesSystems_combine key

end Graph

namespace Analysis

structure SameUpToOrder (a b : Analysis) : Prop where
  resolve : ∀ text, a.index.resolve text = b.index.resolve text
  graph : a.graph.Alike b.graph
  skippedDebugSystems : a.discovery.skippedDebugSystems = b.discovery.skippedDebugSystems
  unresolved : a.discovery.unresolved.length = b.discovery.unresolved.length

theorem sameUpToOrder_of_perm {files others : List ScannedFile} (skipDebug : Bool)
    (h : files.Perm others) (hu : Unambiguous files) :
    SameUpToOrder (ofFiles skipDebug files) (ofFiles skipDebug others) := by
  have hresolve := NameIndex.resolve_build_of_perm h hu
  refine ⟨hresolve, ?_, ?_, ?_⟩
  · exact Graph.alike_ofDiscovery h hresolve skipDebug
  · exact skippedDebugSystems_of_perm h skipDebug
  · exact (perm_unresolved h hresolve skipDebug).length_eq

def fileOf (name : String) (declarations : List Declaration) : ScannedFile :=
  ⟨.ofString name, name, "", declarations, false⟩

def position : Declaration :=
  ⟨"Game.Position", "Position", .structType, .ofList ["IComponentData"], [], [], .empty⟩

def moverPart (bases : List String) (component : String) : Declaration :=
  ⟨"Game.Mover", "Mover", .classType, .ofList bases, [],
    [⟨"Game.Mover.TypeHandle", "TypeHandle", .structType, .empty,
      [⟨"", "", .generic "ComponentLookup" [component], [], 0⟩], [], .empty⟩], .empty⟩

def markedFile : ScannedFile := fileOf "A.cs" [moverPart ["GameSystemBase"] "Game.Position"]
def unmarkedFile : ScannedFile := fileOf "B.cs" [moverPart [] "Speed", position, moverPart [] "Position"]

theorem sameUpToOrder_parts_swapped :
    [markedFile, unmarkedFile].Perm [unmarkedFile, markedFile] ∧
      Unambiguous [markedFile, unmarkedFile] ∧
      SameUpToOrder (ofFiles true [markedFile, unmarkedFile])
        (ofFiles true [unmarkedFile, markedFile]) := by
  have hperm : [markedFile, unmarkedFile].Perm [unmarkedFile, markedFile] := .swap _ _ _
  have hu : Unambiguous [markedFile, unmarkedFile] := by decide +kernel
  exact ⟨hperm, hu, sameUpToOrder_of_perm true hperm hu⟩

end Analysis

end EntityGraph
