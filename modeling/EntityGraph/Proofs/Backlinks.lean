import EntityGraph.Graph
import EntityGraph.Proofs.Catalog
import EntityGraph.Proofs.Components
import EntityGraph.Proofs.Systems

namespace EntityGraph

namespace Backlinks

def usersOf (targets : SystemType → List String) (systems : List SystemType) (key : String) :
    List String :=
  systems.flatMap fun s => List.replicate ((targets s).count key) s.name

theorem usersOf_concat (targets : SystemType → List String) (systems : List SystemType)
    (s : SystemType) (key : String) :
    usersOf targets (systems ++ [s]) key =
      usersOf targets systems key ++ List.replicate ((targets s).count key) s.name := by
  simp [usersOf]

section Record

variable {user : String} {targets : List String} {key : String} {links : Catalog (List String)}

theorem find?_addAll (user : String) (targets : List String) (key : String)
    (links : Catalog (List String)) :
    (addAll user links targets).find? key =
      if key ∈ targets then
        some ((links.find? key).getD [] ++ List.replicate (targets.count key) user)
      else links.find? key := by
  induction targets generalizing links with
  | nil => simp [addAll]
  | cons target targets ih =>
      have hstep : addAll user links (target :: targets) =
          addAll user (links.upsert target fun users => users.getD [] ++ [user]) targets := rfl
      rw [hstep, ih, Catalog.find?_upsert]
      by_cases htarget : key = target
      · subst htarget
        by_cases hmem : key ∈ targets
        · simp [hmem, List.replicate_succ]
        · simp [hmem, List.count_eq_zero_of_not_mem hmem]
      · simp [htarget, Ne.symm htarget]

theorem getD_find?_addAll (user : String) (targets : List String) (key : String)
    (links : Catalog (List String)) :
    ((addAll user links targets).find? key).getD [] =
      (links.find? key).getD [] ++ List.replicate (targets.count key) user := by
  rw [find?_addAll]
  split
  · rfl
  · rename_i hmem
    rw [List.count_eq_zero_of_not_mem hmem, List.replicate_zero, List.append_nil]

theorem contains_addAll_iff
    (h : links.contains key = true ↔ (links.find? key).getD [] ≠ []) :
    (addAll user links targets).contains key = true ↔
      ((addAll user links targets).find? key).getD [] ≠ [] := by
  rw [Catalog.contains, find?_addAll]
  split
  · rename_i hmem
    have hcount : targets.count key ≠ 0 := Nat.ne_of_gt (List.count_pos_iff.mpr hmem)
    simp [hcount]
  · exact h

def Kept (before after : Catalog (List String)) : Prop :=
  ∀ key users, before.find? key = some users →
    ∃ grown, after.find? key = some grown ∧ users <+: grown

theorem kept_addAll (user : String) (targets : List String) (links : Catalog (List String)) :
    Kept links (addAll user links targets) := by
  intro key users h
  rw [find?_addAll, h]
  split
  · exact ⟨_, rfl, List.prefix_append _ _⟩
  · exact ⟨users, rfl, List.prefix_rfl⟩

/-- The maps hold the references of the systems, each as often as it is made, and no other keys. -/
structure Tracks (systems : List SystemType) (b : Backlinks) : Prop where
  componentUsers : ∀ c, b.componentUsers c = usersOf (·.componentTypes) systems c
  systemUsers : ∀ s, b.systemUsers s = usersOf (·.usesSystems) systems s
  hasComponent : ∀ c, b.components.contains c = true ↔ b.componentUsers c ≠ []
  hasSystem : ∀ s, b.systems.contains s = true ↔ b.systemUsers s ≠ []

theorem tracks_empty : Tracks [] empty where
  componentUsers _ := rfl
  systemUsers _ := rfl
  hasComponent _ := ⟨nofun, fun h => absurd rfl h⟩
  hasSystem _ := ⟨nofun, fun h => absurd rfl h⟩

theorem Tracks.record {systems : List SystemType} {b : Backlinks} (h : Tracks systems b)
    (s : SystemType) : Tracks (systems ++ [s]) (b.record s) where
  componentUsers c := by
    rw [usersOf_concat, ← h.componentUsers]
    exact getD_find?_addAll s.name s.componentTypes c b.components
  systemUsers t := by
    rw [usersOf_concat, ← h.systemUsers]
    exact getD_find?_addAll s.name s.usesSystems t b.systems
  hasComponent c := contains_addAll_iff (h.hasComponent c)
  hasSystem t := contains_addAll_iff (h.hasSystem t)

theorem Tracks.foldl_record {xs : List SystemType} {b : Backlinks} (h : Tracks xs b)
    (ys : List SystemType) : Tracks (xs ++ ys) (ys.foldl Backlinks.record b) := by
  induction ys generalizing xs b with
  | nil => rwa [List.append_nil]
  | cons y ys ih =>
      rw [List.foldl_cons, List.append_cons]
      exact ih (h.record y)

theorem tracks_ofSystems (systems : List SystemType) : Tracks systems (ofSystems systems) :=
  tracks_empty.foldl_record systems

theorem recorded_ofSystems (xs ys : List SystemType) :
    ys.foldl record (ofSystems xs) = ofSystems (xs ++ ys) ∧
      Tracks (xs ++ ys) (ys.foldl record (ofSystems xs)) ∧
        ∀ (b : Backlinks) (s : SystemType), Kept b.components (b.record s).components ∧
          Kept b.systems (b.record s).systems := by
  refine ⟨(ofSystems_append xs ys).symm, (tracks_ofSystems xs).foldl_record ys, ?_⟩
  intro b s
  exact ⟨kept_addAll _ _ _, kept_addAll _ _ _⟩

end Record

theorem ofSystems_concat (systems : List SystemType) (s : SystemType) :
    ofSystems (systems ++ [s]) = (ofSystems systems).record s := by
  simp [ofSystems_append]

theorem componentUsers_ofSystems (systems : List SystemType) (key : String) :
    (ofSystems systems).componentUsers key = usersOf (·.componentTypes) systems key :=
  (tracks_ofSystems systems).componentUsers key

theorem systemUsers_ofSystems (systems : List SystemType) (key : String) :
    (ofSystems systems).systemUsers key = usersOf (·.usesSystems) systems key :=
  (tracks_ofSystems systems).systemUsers key

theorem mem_usersOf {targets : SystemType → List String} {systems : List SystemType}
    {key user : String} (h : user ∈ usersOf targets systems key) :
    ∃ s ∈ systems, s.name = user := by
  obtain ⟨s, hs, hu⟩ := List.mem_flatMap.mp h
  exact ⟨s, hs, (List.eq_of_mem_replicate hu).symm⟩

theorem count_usersOf (targets : SystemType → List String) {systems : List SystemType}
    (h : (systems.map (·.name)).Nodup) (key user : String) :
    (usersOf targets systems key).count user =
      (((systems.find? (·.name = user)).map targets).getD []).count key := by
  induction systems with
  | nil => rfl
  | cons s systems ih =>
      rw [List.map_cons, List.nodup_cons] at h
      have hcons : usersOf targets (s :: systems) key =
          List.replicate ((targets s).count key) s.name ++ usersOf targets systems key := rfl
      rw [hcons, List.count_append, List.count_replicate]
      by_cases hs : s.name = user
      · have hzero : (usersOf targets systems key).count user = 0 := by
          rw [List.count_eq_zero]
          intro hu
          obtain ⟨s', hs', hname⟩ := mem_usersOf hu
          exact h.1 (hs ▸ hname ▸ List.mem_map_of_mem hs')
        simp [hs, hzero]
      · simp [hs, ih h.2]

end Backlinks

namespace Graph

def componentTypesOf (g : Graph) (system : String) : List String :=
  ((g.systems.find? system).map (·.componentTypes)).getD []

def usesSystemsOf (g : Graph) (system : String) : List String :=
  ((g.systems.find? system).map (·.usesSystems)).getD []

structure Symmetric (g : Graph) : Prop where
  componentName : ∀ key node, g.components.find? key = some node → node.name = key
  systemName : ∀ key node, g.systems.find? key = some node → node.name = key
  componentCount : ∀ key node, g.components.find? key = some node →
    ∀ user, node.usedBy.count user = (g.componentTypesOf user).count key
  systemCount : ∀ key node, g.systems.find? key = some node →
    ∀ user, node.usedBy.count user = (g.usesSystemsOf user).count key
  componentUsers : ∀ key node, g.components.find? key = some node →
    ∀ user ∈ node.usedBy, g.systems.contains user = true
  systemUsers : ∀ key node, g.systems.find? key = some node →
    ∀ user ∈ node.usedBy, g.systems.contains user = true

section Build

variable {components : List ComponentType} {systems : List SystemType} {b : Backlinks}

theorem find?_components_build (h : (components.map (·.name)).Nodup) (key : String) :
    (build components systems b).components.find? key =
      (components.find? (·.name = key)).map (componentNode b) :=
  Catalog.find?_ofList_map (componentNode b) h key

theorem find?_systems_build (h : (systems.map (·.name)).Nodup) (key : String) :
    (build components systems b).systems.find? key =
      (systems.find? (·.name = key)).map (systemNode b) :=
  Catalog.find?_ofList_map (systemNode b) h key

theorem componentTypesOf_build (h : (systems.map (·.name)).Nodup) (user : String) :
    (build components systems b).componentTypesOf user =
      ((systems.find? (·.name = user)).map (·.componentTypes)).getD [] := by
  rw [componentTypesOf, find?_systems_build h, Option.map_map]
  rfl

theorem usesSystemsOf_build (h : (systems.map (·.name)).Nodup) (user : String) :
    (build components systems b).usesSystemsOf user =
      ((systems.find? (·.name = user)).map (·.usesSystems)).getD [] := by
  rw [usesSystemsOf, find?_systems_build h, Option.map_map]
  rfl

theorem contains_systems_build (h : (systems.map (·.name)).Nodup) {user : String}
    (hu : ∃ s ∈ systems, s.name = user) :
    (build components systems b).systems.contains user = true := by
  obtain ⟨s, hs, rfl⟩ := hu
  rw [Catalog.contains, find?_systems_build h, Merge.find?_eq_some_of_nodup h hs]
  rfl

theorem symmetric_of_nodup (hc : (components.map (·.name)).Nodup)
    (hs : (systems.map (·.name)).Nodup) :
    (build components systems (Backlinks.ofSystems systems)).Symmetric where
  componentName key node h := by
    rw [find?_components_build hc, Option.map_eq_some_iff] at h
    obtain ⟨c, hf, rfl⟩ := h
    simpa [componentNode] using List.find?_some hf
  systemName key node h := by
    rw [find?_systems_build hs, Option.map_eq_some_iff] at h
    obtain ⟨s, hf, rfl⟩ := h
    simpa [systemNode] using List.find?_some hf
  componentCount key node h user := by
    rw [find?_components_build hc, Option.map_eq_some_iff] at h
    obtain ⟨c, hf, rfl⟩ := h
    have hname : c.name = key := by simpa using List.find?_some hf
    rw [componentTypesOf_build hs, ← Backlinks.count_usersOf _ hs, ← hname]
    exact congrArg _ (Backlinks.componentUsers_ofSystems systems c.name)
  systemCount key node h user := by
    rw [find?_systems_build hs, Option.map_eq_some_iff] at h
    obtain ⟨s, hf, rfl⟩ := h
    have hname : s.name = key := by simpa using List.find?_some hf
    rw [usesSystemsOf_build hs, ← Backlinks.count_usersOf _ hs, ← hname]
    exact congrArg _ (Backlinks.systemUsers_ofSystems systems s.name)
  componentUsers key node h user hu := by
    rw [find?_components_build hc, Option.map_eq_some_iff] at h
    obtain ⟨c, -, rfl⟩ := h
    rw [componentNode, Backlinks.componentUsers_ofSystems] at hu
    exact contains_systems_build hs (Backlinks.mem_usersOf hu)
  systemUsers key node h user hu := by
    rw [find?_systems_build hs, Option.map_eq_some_iff] at h
    obtain ⟨s, -, rfl⟩ := h
    rw [systemNode, Backlinks.systemUsers_ofSystems] at hu
    exact contains_systems_build hs (Backlinks.mem_usersOf hu)

end Build

def ofDiscovery (files : List ScannedFile) (d : Discovery) : Graph :=
  build (ComponentType.extract files) d.systems (Backlinks.ofSystems d.systems)

theorem mem_keys_components_ofDiscovery (files : List ScannedFile) (d : Discovery) (name : String) :
    name ∈ (ofDiscovery files d).components.keys ↔
      name ∈ (ComponentType.extract files).map (·.name) :=
  Catalog.mem_keys_ofList_map _ (ComponentType.firstSeen_extract files).nodup name

theorem mem_keys_systems_ofDiscovery (files : List ScannedFile) (index : NameIndex)
    (skipDebug : Bool) (name : String) :
    name ∈ (ofDiscovery files (discoverSystems files index skipDebug)).systems.keys ↔
      name ∈ (discoverSystems files index skipDebug).systems.map (·.name) :=
  Catalog.mem_keys_ofList_map _
    (SystemType.firstSeen_discoverSystems files index skipDebug).nodup name

theorem symmetric_build (files : List ScannedFile) (skipDebug : Bool) :
    let index := NameIndex.build files
    let systems := (discoverSystems files index skipDebug).systems
    let backlinks := Backlinks.ofSystems systems
    (build (ComponentType.extract files) systems backlinks).Symmetric := by
  intro index systems backlinks
  apply symmetric_of_nodup
  · exact (ComponentType.firstSeen_extract files).nodup
  · exact (SystemType.firstSeen_discoverSystems files index skipDebug).nodup

end Graph

end EntityGraph
