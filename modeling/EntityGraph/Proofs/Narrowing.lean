import EntityGraph.Proofs.Catalog
import EntityGraph.Proofs.FinalSigma
import EntityGraph.Query

namespace EntityGraph

namespace Query

open Text Lowercase

def single {α : Type} (key : String) (node : α) : Catalog α :=
  ⟨[(key, node)], by simp⟩

theorem mem_keys_single {α : Type} (key : String) (node : α) : key ∈ (single key node).keys := by
  simp [single, Catalog.keys]

section Documents

variable {α : Type} [Searchable α] {needle longer : List Char} {key s t : String}

theorem holds_mono (h : needle <:+: longer) {text : String} (hlonger : holds longer text = true) :
    holds needle text = true :=
  occursIn_iff.mpr (h.trans (occursIn_iff.mp hlonger))

theorem matchesAny_mono (h : needle <:+: longer) {references : List String}
    (hlonger : matchesAny longer key references = true) :
    matchesAny needle key references = true := by
  simp only [matchesAny, Bool.or_eq_true, List.isEmpty_iff, List.any_eq_true] at hlonger ⊢
  rcases hlonger with (rfl | hkey) | ⟨reference, hmem, hholds⟩
  · exact .inl (.inl (List.infix_nil.mp h))
  · exact .inl (.inr (holds_mono h hkey))
  · exact .inr ⟨reference, hmem, holds_mono h hholds⟩

theorem filterKeys_subset (h : lowercase s.toList <:+: lowercase t.toList) (c : Catalog α) :
    filterKeys c t ⊆ filterKeys c s := by
  intro key hkey
  obtain ⟨e, he, rfl⟩ := List.mem_map.mp hkey
  obtain ⟨hmem, hmatches⟩ := List.mem_filter.mp he
  exact List.mem_map_of_mem (List.mem_filter.mpr ⟨hmem, matchesAny_mono h hmatches⟩)

theorem mem_filterKeys_self {c : Catalog α} (h : key ∈ c.keys) : key ∈ filterKeys c key := by
  obtain ⟨e, he, rfl⟩ := List.mem_map.mp h
  refine List.mem_map_of_mem (List.mem_filter.mpr ⟨he, ?_⟩)
  simp [matchesAny, holds, occursIn_iff.mpr (List.infix_refl _)]

theorem infix_of_mem_filterKeys_single {node : α} (hnode : Searchable.references node = [])
    (h : key ∈ filterKeys (single key node) s) : lowercase s.toList <:+: lowercase key.toList := by
  obtain ⟨e, he, -⟩ := List.mem_map.mp h
  obtain ⟨hmem, hmatches⟩ := List.mem_filter.mp he
  obtain rfl := List.mem_singleton.mp hmem
  simp only [matchesAny, hnode, List.any_nil, Bool.or_false, Bool.or_eq_true, List.isEmpty_iff]
    at hmatches
  rcases hmatches with hempty | hkey
  · exact hempty ▸ List.nil_infix
  · exact occursIn_iff.mp hkey

end Documents

def Narrows (s t : String) : Prop :=
  (∀ c : Catalog ComponentNode, filterKeys c t ⊆ filterKeys c s) ∧
    ∀ c : Catalog SystemNode, filterKeys c t ⊆ filterKeys c s

def FindsVerbatim (s : String) : Prop :=
  ∀ key : String, s.toList <:+: key.toList →
    (∀ c : Catalog ComponentNode, key ∈ c.keys → key ∈ filterKeys c s) ∧
      ∀ c : Catalog SystemNode, key ∈ c.keys → key ∈ filterKeys c s

structure Narrowing (s : String) : Prop where
  narrows : ∀ t, Narrows s t ↔ lowercase s.toList <:+: lowercase t.toList
  within : ∀ left right : String, KeepsSigmas left.toList s.toList right.toList →
    Narrows s (left ++ s ++ right)
  plain : 'Σ' ∉ s.toList → (∀ t, s.toList <:+: t.toList → Narrows s t) ∧ FindsVerbatim s
  longer : (∀ t, s.toList <:+: t.toList → Narrows s t) ↔ Settled s.toList
  verbatim : FindsVerbatim s ↔ Settled s.toList

variable {s t : String}

theorem narrows_iff : Narrows s t ↔ lowercase s.toList <:+: lowercase t.toList := by
  constructor
  · rintro ⟨hcomponents, -⟩
    let c := single t (⟨"", [], []⟩ : ComponentNode)
    have hself : t ∈ filterKeys c t := mem_filterKeys_self (mem_keys_single t _)
    exact infix_of_mem_filterKeys_single rfl (hcomponents c hself)
  · exact fun h => ⟨filterKeys_subset h, filterKeys_subset h⟩

theorem settled_iff_strings :
    Settled s.toList ↔ ∀ t : String, s.toList <:+: t.toList →
      lowercase s.toList <:+: lowercase t.toList := by
  rw [settled_iff]
  constructor
  · exact fun h t => h t.toList
  · intro h cs hcs
    simpa using h (String.ofList cs) (by simpa using hcs)

theorem longer_iff_settled :
    (∀ t, s.toList <:+: t.toList → Narrows s t) ↔ Settled s.toList := by
  simp only [narrows_iff, settled_iff_strings]

theorem findsVerbatim_iff_settled : FindsVerbatim s ↔ Settled s.toList := by
  rw [settled_iff_strings]
  constructor
  · intro h key hkey
    let node : ComponentNode := ⟨"", [], []⟩
    have hfound : key ∈ filterKeys (single key node) s :=
      (h key hkey).1 _ (mem_keys_single key node)
    exact infix_of_mem_filterKeys_single rfl hfound
  · intro h key hkey
    exact ⟨fun c hmem => filterKeys_subset (h key hkey) c (mem_filterKeys_self hmem),
      fun c hmem => filterKeys_subset (h key hkey) c (mem_filterKeys_self hmem)⟩

theorem narrowing (s : String) : Narrowing s where
  narrows _ := narrows_iff
  within left right h := by
    rw [narrows_iff, String.toList_append, String.toList_append]
    exact lowercase_infix_of_keepsSigmas h
  plain h := by
    have hsettled := settled_of_notMem h
    exact ⟨longer_iff_settled.mpr hsettled, findsVerbatim_iff_settled.mpr hsettled⟩
  longer := longer_iff_settled
  verbatim := findsVerbatim_iff_settled

theorem not_found_at_word_end :
    "ΑΣ".toList <:+: "ΑΣΑ".toList ∧
      filterKeys (single "ΑΣΑ" (⟨"ΑΣΑ", [], [], []⟩ : SystemNode)) "ΑΣΑ" = ["ΑΣΑ"] ∧
      filterKeys (single "ΑΣΑ" (⟨"ΑΣΑ", [], [], []⟩ : SystemNode)) "ΑΣ" = [] := by
  decide +kernel

end Query

end EntityGraph
