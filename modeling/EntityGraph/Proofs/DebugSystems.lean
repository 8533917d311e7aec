import EntityGraph.Proofs.Backlinks
import Mathlib.Data.List.Flatten

namespace EntityGraph

def IsDebug (name : String) : Prop :=
  "Debug".toList <:+: name.toList

instance : DecidablePred IsDebug := fun _ => decidable_of_iff _ Text.occursIn_iff

theorem kept_false (name : String) : Kept false name := by
  intro h
  cases h

theorem kept_true_iff {name : String} : Kept true name ↔ ¬IsDebug name := by
  constructor
  · intro h
    exact h rfl
  · intro h _
    exact h

theorem isPart_true_iff {files : List ScannedFile} {d : Declaration} :
    IsPart files true d ↔ ¬IsDebug d.fullName ∧ IsPart files false d := by
  unfold IsPart
  rw [kept_true_iff]
  constructor
  · rintro ⟨hcarries, hdebug⟩
    exact ⟨hdebug, hcarries, kept_false d.fullName⟩
  · rintro ⟨hdebug, hcarries, -⟩
    exact ⟨hcarries, hdebug⟩

theorem systemParts_true (files : List ScannedFile) :
    systemParts files true = (systemParts files false).filter (¬IsDebug ·.fullName) := by
  unfold systemParts
  rw [List.filter_filter]
  refine List.filter_congr ?_
  intro d _
  simp [isPart_true_iff]

namespace SystemType

theorem mem_names_discoverSystems_false {files : List ScannedFile} {index : NameIndex}
    {name : String} :
    name ∈ (discoverSystems files index false).systems.map (·.name) ↔
      Carries files .system name := by
  rw [(firstSeen_discoverSystems files index false).mem_iff, List.mem_map]
  constructor
  · rintro ⟨d, hd, rfl⟩
    have hpart : IsPart files false d := by simpa using (List.mem_filter.mp hd).2
    exact hpart.1
  · intro h
    obtain ⟨d, hd, hname⟩ := List.mem_map.mp (mem_names_scanOrder_of_carries h)
    have hpart : IsPart files false d := ⟨hname ▸ h, kept_false d.fullName⟩
    exact ⟨d, List.mem_filter.mpr ⟨hd, by simpa using hpart⟩, hname⟩

variable (files : List ScannedFile) (index : NameIndex)

theorem systems_discoverSystems_true :
    (discoverSystems files index true).systems =
      (discoverSystems files index false).systems.filter (¬IsDebug ·.name) := by
  rw [systems_discoverSystems, systems_discoverSystems, systemParts_true]
  have hparts : ((systemParts files false).filter (¬IsDebug ·.fullName)).map (ofDeclaration index) =
      ((systemParts files false).map (ofDeclaration index)).filter
        ((fun name => decide (¬IsDebug name)) ∘ (·.name)) := by
    rw [List.filter_map]
    rfl
  rw [hparts, Merge.byName_filter name_combine]
  rfl

theorem unresolved_discoverSystems_true :
    (discoverSystems files index true).unresolved.Sublist
      (discoverSystems files index false).unresolved := by
  rw [discoverSystems, discoverSystems, partDeclarations_eq, partDeclarations_eq, systemParts_true]
  exact List.filter_sublist.flatMap (unresolvedIn index)

theorem skippedDebugSystems_false :
    (discoverSystems files index false).skippedDebugSystems = 0 := by
  rw [discoverSystems, List.length_eq_zero_iff, List.filter_eq_nil_iff]
  intro name _
  simp [keepsSystem_iff, kept_false]

end SystemType

theorem Backlinks.usersOf_filter (targets : SystemType → List String) (keep : String → Bool)
    (systems : List SystemType) (key : String) :
    usersOf targets (systems.filter (keep ·.name)) key =
      (usersOf targets systems key).filter keep := by
  induction systems with
  | nil => rfl
  | cons s systems ih =>
      have hcons : usersOf targets (s :: systems) key =
          List.replicate ((targets s).count key) s.name ++ usersOf targets systems key := rfl
      rw [hcons, List.filter_append, List.filter_replicate, ← ih]
      by_cases h : keep s.name = true
      · rw [List.filter_cons_of_pos (by simpa using h), if_pos h]
        rfl
      · rw [List.filter_cons_of_neg (by simpa using h), if_neg h, List.nil_append]

namespace Graph

def project (keep : String → Bool) (g : Graph) : Graph where
  components := g.components.mapValues fun c => { c with usedBy := c.usedBy.filter keep }
  systems :=
    (g.systems.restrict keep).mapValues fun s => { s with usedBy := s.usedBy.filter keep }

section Filter

variable {components : List ComponentType} {systems : List SystemType} (keep : String → Bool)

theorem components_build_filter (hc : (components.map (·.name)).Nodup) :
    (build components (systems.filter (keep ·.name))
        (Backlinks.ofSystems (systems.filter (keep ·.name)))).components =
      ((build components systems (Backlinks.ofSystems systems)).project keep).components := by
  apply Catalog.ext_find?
  intro key
  rw [project, Catalog.find?_mapValues, find?_components_build hc, find?_components_build hc,
    Option.map_map]
  congr 1
  funext c
  simp only [Function.comp_apply, componentNode, Backlinks.componentUsers_ofSystems,
    Backlinks.usersOf_filter]

theorem systems_build_filter (hs : (systems.map (·.name)).Nodup) :
    (build components (systems.filter (keep ·.name))
        (Backlinks.ofSystems (systems.filter (keep ·.name)))).systems =
      ((build components systems (Backlinks.ofSystems systems)).project keep).systems := by
  have hkept : ((systems.filter (keep ·.name)).map (·.name)).Nodup :=
    hs.sublist (List.filter_sublist.map _)
  apply Catalog.ext_find?
  intro key
  have hfilter : (systems.filter (keep ·.name)).find? (·.name = key) =
      if keep key then systems.find? (·.name = key) else none :=
    Merge.find?_filter_name keep systems key
  rw [project, Catalog.find?_mapValues, Catalog.find?_restrict, find?_systems_build hkept,
    find?_systems_build hs, hfilter]
  split
  · rw [Option.map_map]
    congr 1
    funext s
    simp only [Function.comp_apply, systemNode, Backlinks.systemUsers_ofSystems,
      Backlinks.usersOf_filter]
  · rfl

theorem build_filter (hc : (components.map (·.name)).Nodup) (hs : (systems.map (·.name)).Nodup) :
    build components (systems.filter (keep ·.name))
        (Backlinks.ofSystems (systems.filter (keep ·.name))) =
      (build components systems (Backlinks.ofSystems systems)).project keep :=
  congrArg₂ Graph.mk (components_build_filter keep hc) (systems_build_filter keep hs)

end Filter

theorem skippedDebugSystems_true (files : List ScannedFile) (index : NameIndex) :
    (discoverSystems files index true).skippedDebugSystems =
      ((ofDiscovery files (discoverSystems files index false)).systems.keys.filter
        (IsDebug ·)).length := by
  have hkept : ∀ name, keepsSystem true name = !decide (IsDebug name) := by
    intro name
    rw [Bool.eq_iff_iff, keepsSystem_iff, kept_true_iff]
    simp
  refine List.Perm.length_eq ?_
  rw [List.perm_ext_iff_of_nodup ((nodup_eraseDups _).filter _)
    ((Catalog.nodup_keys _).filter _)]
  intro name
  rw [List.mem_filter, List.mem_filter, List.mem_eraseDups, mem_markedNames,
    mem_keys_systems_ofDiscovery, SystemType.mem_names_discoverSystems_false]
  simp [hkept]

theorem projected_without_debug (files : List ScannedFile) (index : NameIndex) :
    let full := discoverSystems files index false
    let kept := discoverSystems files index true
    ofDiscovery files kept = (ofDiscovery files full).project (¬IsDebug ·) ∧
      full.skippedDebugSystems = 0 ∧
      kept.skippedDebugSystems = ((ofDiscovery files full).systems.keys.filter (IsDebug ·)).length ∧
      kept.unresolved.length ≤ full.unresolved.length := by
  intro full kept
  refine ⟨?_, ?_, ?_, ?_⟩
  · have hc := (ComponentType.firstSeen_extract files).nodup
    have hs := (SystemType.firstSeen_discoverSystems files index false).nodup
    have hkept := SystemType.systems_discoverSystems_true files index
    rw [ofDiscovery, hkept]
    exact build_filter (fun name => decide (¬IsDebug name)) hc hs
  · exact SystemType.skippedDebugSystems_false files index
  · exact skippedDebugSystems_true files index
  · exact (SystemType.unresolved_discoverSystems_true files index).length_le

end Graph

end EntityGraph
