import EntityGraph.ComponentType
import EntityGraph.Proofs.Merge

namespace EntityGraph

def scanOrder (files : List ScannedFile) : List Declaration :=
  files.flatMap fun f => Declaration.preorderAll f.declarations

def declarationsNamed (files : List ScannedFile) (name : String) : List Declaration :=
  (scanOrder files).filter (·.fullName = name)

def Carries (files : List ScannedFile) (m : Marker) (name : String) : Prop :=
  ∃ d ∈ scanOrder files, d.fullName = name ∧ ∃ base ∈ d.baseTypes.toList, shortTypeName base = m.name

structure InScanOrder (files : List ScannedFile) (names : List String) : Prop where
  nodup : names.Nodup
  ordered : names.Pairwise fun a b =>
    ((scanOrder files).map (·.fullName)).idxOf a < ((scanOrder files).map (·.fullName)).idxOf b

theorem corpus_eq_scanOrder (files : List ScannedFile) : corpus files = scanOrder files := by
  unfold corpus scanOrder
  congr 1
  funext f
  exact Declaration.flatMap_walk f.declarations

theorem perm_scanOrder {files others : List ScannedFile} (h : files.Perm others) :
    (scanOrder files).Perm (scanOrder others) :=
  h.flatMap_right _

theorem Declaration.implements_iff (d : Declaration) (m : Marker) :
    d.implements m = true ↔ ∃ base ∈ d.baseTypes.toList, shortTypeName base = m.name := by
  simp [Declaration.implements]

theorem mem_markedNames {files : List ScannedFile} {m : Marker} {name : String} :
    name ∈ markedNames files m ↔ Carries files m name := by
  unfold markedNames Carries
  rw [corpus_eq_scanOrder, List.mem_map]
  constructor
  · rintro ⟨d, hd, rfl⟩
    obtain ⟨hd, hm⟩ := List.mem_filter.mp hd
    exact ⟨d, hd, rfl, (d.implements_iff m).mp hm⟩
  · rintro ⟨d, hd, hname, hm⟩
    exact ⟨d, List.mem_filter.mpr ⟨hd, (d.implements_iff m).mpr hm⟩, hname⟩

instance (files : List ScannedFile) (m : Marker) : DecidablePred (Carries files m) := fun _ =>
  decidable_of_iff _ mem_markedNames

theorem mem_names_scanOrder_of_carries {files : List ScannedFile} {m : Marker} {name : String}
    (h : Carries files m name) : name ∈ (scanOrder files).map (·.fullName) := by
  obtain ⟨d, hd, hname, -⟩ := h
  exact List.mem_map.mpr ⟨d, hd, hname⟩

theorem nodup_eraseDups (names : List String) : names.eraseDups.Nodup := by
  match names with
  | [] => simp
  | n :: ns =>
      rw [List.eraseDups_cons, List.nodup_cons]
      constructor
      · intro hn
        simpa using List.mem_eraseDups.mp hn
      · exact nodup_eraseDups (ns.filter fun m => !m == n)
termination_by names.length
decreasing_by exact Nat.lt_succ_of_le (List.length_filter_le _ _)

theorem inScanOrder_of_firstSeen {files : List ScannedFile} {keep : String → Bool}
    {names : List String}
    (h : Merge.FirstSeen (((scanOrder files).map (·.fullName)).filter keep) names) :
    InScanOrder files names := by
  refine ⟨h.nodup, h.ordered.imp_of_mem ?_⟩
  intro a b ha hb hab
  have hka : keep a = true := (List.mem_filter.mp ((h.mem_iff a).mp ha)).2
  have hkb : keep b = true := (List.mem_filter.mp ((h.mem_iff b).mp hb)).2
  exact Merge.idxOf_filter_lt hka hkb hab

end EntityGraph
