import EntityGraph.Proofs.Backlinks
import Mathlib.Data.Set.Card

namespace EntityGraph

theorem Merge.sum_add {α : Type} {name : α → String} {combine : α → α → α} {weight : α → Nat}
    (hweight : ∀ a b, weight (combine a b) = weight a + weight b) (item : α) (l : List α) :
    ((add name combine item l).map weight).sum = (l.map weight).sum + weight item := by
  induction l with
  | nil => simp [add]
  | cons x xs ih =>
      by_cases hx : name x = name item
      · simp only [add, if_pos hx, List.map_cons, List.sum_cons, hweight]
        omega
      · simp only [add, if_neg hx, List.map_cons, List.sum_cons, ih]
        omega

theorem Merge.sum_byName {α : Type} {name : α → String} {combine : α → α → α} {weight : α → Nat}
    (hname : ∀ a b, name (combine a b) = name a)
    (hweight : ∀ a b, weight (combine a b) = weight a + weight b) (items : List α) :
    ((byName name combine items).map weight).sum = (items.map weight).sum := by
  induction items using List.reverseRecOn with
  | nil => rfl
  | append_singleton items item ih =>
      rw [byName_concat hname, sum_add hweight, ih, List.map_append, List.sum_append]
      simp

theorem NameIndex.length_resolved_add (index : NameIndex) (texts : List String) :
    (texts.filterMap index.resolve).length +
      (texts.filter (index.resolve · = none)).length = texts.length := by
  induction texts with
  | nil => rfl
  | cons text texts ih =>
      cases h : index.resolve text with
      | none =>
          rw [List.filterMap_cons_none h, List.filter_cons_of_pos (by simpa using h),
            List.length_cons, List.length_cons]
          omega
      | some name =>
          rw [List.filterMap_cons_some h, List.filter_cons_of_neg (by simp [h]),
            List.length_cons, List.length_cons]
          omega

namespace SystemType

def references (s : SystemType) : Nat :=
  s.componentTypes.length + s.usesSystems.length

theorem references_combine (s part : SystemType) :
    (combine s part).references = s.references + part.references := by
  simp only [references, combine, List.length_append]
  omega

end SystemType

def Declaration.candidates (d : Declaration) : List String :=
  d.handledTexts ++ d.requestedTexts

theorem SystemType.references_add_unresolvedIn (index : NameIndex) (d : Declaration) :
    (ofDeclaration index d).references + (unresolvedIn index d).length = d.candidates.length := by
  have hhandled := index.length_resolved_add d.handledTexts
  have hrequested := index.length_resolved_add d.requestedTexts
  rw [references, componentTypes_ofDeclaration, usesSystems_ofDeclaration, unresolvedIn,
    Declaration.componentReferences_eq, Declaration.systemReferences_eq, List.length_map,
    List.filter_append, List.length_append, Declaration.candidates, List.length_append]
  omega

namespace Backlinks

def links (c : Catalog (List String)) : Nat :=
  (c.values.map List.length).sum

theorem sum_upsertEntries (user key : String) (l : List (String × List String)) :
    ((Catalog.upsertEntries key (fun users => users.getD [] ++ [user]) l).map
        (·.2.length)).sum = (l.map (·.2.length)).sum + 1 := by
  induction l with
  | nil => simp [Catalog.upsertEntries]
  | cons e l ih =>
      obtain ⟨k, users⟩ := e
      rw [Catalog.upsertEntries]
      split
      · simp
        omega
      · split
        · simp
          omega
        · simp only [List.map_cons, List.sum_cons, ih]
          omega

theorem links_addAll (user : String) (held : Catalog (List String)) (targets : List String) :
    links (addAll user held targets) = links held + targets.length := by
  induction targets generalizing held with
  | nil => rfl
  | cons target targets ih =>
      have hone : links (held.upsert target fun users => users.getD [] ++ [user]) =
          links held + 1 := by
        simpa [links, Catalog.values, Catalog.upsert, List.map_map, Function.comp_def] using
          sum_upsertEntries user target held.entries
      have hstep : addAll user held (target :: targets) =
          addAll user (held.upsert target fun users => users.getD [] ++ [user]) targets := rfl
      rw [hstep, ih, hone, List.length_cons]
      omega

theorem links_components_ofSystems (systems : List SystemType) :
    links (ofSystems systems).components = (systems.map (·.componentTypes.length)).sum := by
  induction systems using List.reverseRecOn with
  | nil => rfl
  | append_singleton systems s ih =>
      rw [ofSystems_concat, record, links_addAll, ih, List.map_append, List.sum_append]
      simp

theorem links_systems_ofSystems (systems : List SystemType) :
    links (ofSystems systems).systems = (systems.map (·.usesSystems.length)).sum := by
  induction systems using List.reverseRecOn with
  | nil => rfl
  | append_singleton systems s ih =>
      rw [ofSystems_concat, record, links_addAll, ih, List.map_append, List.sum_append]
      simp

end Backlinks

namespace Discovery

structure Accounted (files : List ScannedFile) (skipDebug : Bool) (d : Discovery) : Prop where
  references : (d.systems.map SystemType.references).sum + d.unresolved.length =
    ((systemParts files skipDebug).map (·.candidates.length)).sum
  names : d.systems.length + d.skippedDebugSystems = Set.ncard {name | Carries files .system name}
  componentLinks : Backlinks.links (Backlinks.ofSystems d.systems).components =
    (d.systems.map (·.componentTypes.length)).sum
  systemLinks : Backlinks.links (Backlinks.ofSystems d.systems).systems =
    (d.systems.map (·.usesSystems.length)).sum

variable (files : List ScannedFile) (index : NameIndex) (skipDebug : Bool)

theorem references_add_unresolved :
    ((discoverSystems files index skipDebug).systems.map SystemType.references).sum +
        (discoverSystems files index skipDebug).unresolved.length =
      ((systemParts files skipDebug).map (·.candidates.length)).sum := by
  rw [SystemType.systems_discoverSystems,
    Merge.sum_byName SystemType.name_combine SystemType.references_combine, discoverSystems,
    SystemType.partDeclarations_eq, List.length_flatMap, List.map_map, ← List.sum_map_add]
  congr 1
  refine List.map_congr_left ?_
  intro d _
  exact SystemType.references_add_unresolvedIn index d

theorem perm_names_discoverSystems :
    ((discoverSystems files index skipDebug).systems.map (·.name)).Perm
      ((markedNames files .system).eraseDups.filter (keepsSystem skipDebug ·)) := by
  have hseen := SystemType.firstSeen_discoverSystems files index skipDebug
  rw [List.perm_ext_iff_of_nodup hseen.nodup ((nodup_eraseDups _).filter _)]
  intro name
  rw [hseen.mem_iff, List.mem_filter, List.mem_eraseDups, mem_markedNames, keepsSystem_iff,
    List.mem_map]
  constructor
  · rintro ⟨d, hd, rfl⟩
    have hpart : IsPart files skipDebug d := by simpa using (List.mem_filter.mp hd).2
    exact hpart
  · rintro ⟨hcarries, hkept⟩
    obtain ⟨d, hd, rfl⟩ := List.mem_map.mp (mem_names_scanOrder_of_carries hcarries)
    have hpart : IsPart files skipDebug d := ⟨hcarries, hkept⟩
    exact ⟨d, List.mem_filter.mpr ⟨hd, by simpa using hpart⟩, rfl⟩

theorem ncard_carries :
    Set.ncard {name | Carries files .system name} =
      (markedNames files .system).eraseDups.length := by
  have hset : {name | Carries files .system name} =
      ((markedNames files .system).eraseDups.toFinset : Set String) := by
    ext name
    rw [Set.mem_ofPred_eq, Finset.mem_coe, List.mem_toFinset, List.mem_eraseDups, mem_markedNames]
  rw [hset, Set.ncard_coe_finset, List.toFinset_card_of_nodup (nodup_eraseDups _)]

theorem length_systems_add_skipped :
    (discoverSystems files index skipDebug).systems.length +
        (discoverSystems files index skipDebug).skippedDebugSystems =
      Set.ncard {name | Carries files .system name} := by
  have hlength := (perm_names_discoverSystems files index skipDebug).length_eq
  rw [List.length_map] at hlength
  rw [hlength, ncard_carries, discoverSystems]
  exact (List.length_eq_length_filter_add _).symm

theorem accounted_discoverSystems :
    (discoverSystems files index skipDebug).Accounted files skipDebug where
  references := references_add_unresolved files index skipDebug
  names := length_systems_add_skipped files index skipDebug
  componentLinks := Backlinks.links_components_ofSystems _
  systemLinks := Backlinks.links_systems_ofSystems _

end Discovery

end EntityGraph
