import EntityGraph.Document
import EntityGraph.Proofs.Catalog
import EntityGraph.Proofs.JsonText

namespace EntityGraph

theorem mapM_map_eq_some {α β γ : Type} {write : α → β} {back : β → Option γ} {value : α → γ}
    {l : List α} (h : ∀ x ∈ l, back (write x) = some (value x)) :
    (l.map write).mapM back = some (l.map value) := by
  induction l with
  | nil => rfl
  | cons x l ih =>
      have hx := h x (by simp)
      have hl := ih fun y hy => h y (List.mem_cons_of_mem _ hy)
      rw [List.map_cons, List.mapM_cons, hx, hl]
      rfl

theorem mapM_map_back {α β : Type} {write : α → β} {back : β → Option α}
    (h : ∀ x, back (write x) = some x) (l : List α) : (l.map write).mapM back = some l := by
  have hback : (l.map write).mapM back = some (l.map id) := mapM_map_eq_some fun x _ => h x
  rwa [List.map_id] at hback

namespace Json

theorem asText?_ofString (s : String) : (ofString s).asText? = some s :=
  string?_escape s

theorem asList?_array_map {α : Type} {write : α → Json} {back : Json → Option α}
    (h : ∀ x, back (write x) = some x) (l : List α) :
    (Json.array (l.map write)).asList? back = some l :=
  mapM_map_back h l

theorem asMembers?_ofMembers (l : List (String × Json)) : (ofMembers l).asMembers? = some l := by
  refine mapM_map_back ?_ l
  intro m
  rw [string?_escape]
  rfl

theorem only?_of_mem {l : List (String × Json)} (h : (l.map (·.1)).Nodup) {m : String × Json}
    (hm : m ∈ l) : only? m.1 l = some m.2 := by
  have hfilter : l.filter (·.1 = m.1) = [m] := by
    induction l with
    | nil => simp at hm
    | cons x l ih =>
        rw [List.map_cons, List.nodup_cons] at h
        rcases List.mem_cons.mp hm with rfl | hm
        · have hnone : l.filter (·.1 = m.1) = [] := by
            rw [List.filter_eq_nil_iff]
            intro y hy hyk
            have hyk : y.1 = m.1 := by simpa using hyk
            exact h.1 (hyk ▸ List.mem_map_of_mem hy)
          rw [List.filter_cons_of_pos (by simp), hnone]
        · have hne : x.1 ≠ m.1 := fun e => h.1 (e ▸ List.mem_map_of_mem hm)
          rw [List.filter_cons_of_neg (by simpa using hne), ih h.2 hm]
  rw [only?, hfilter]

theorem asRecord?_ofMembers {l : List (String × Json)} (h : (l.map (·.1)).Nodup) :
    (ofMembers l).asRecord? (l.map (·.1)) = some (l.map (·.2)) := by
  have hvalues : (l.map (·.1)).mapM (only? · l) = some (l.map (·.2)) :=
    mapM_map_eq_some fun _ hm => only?_of_mem h hm
  have hmembers := asMembers?_ofMembers l
  rw [ofMembers] at hmembers ⊢
  rw [asRecord?, hmembers]
  exact hvalues

end Json

theorem asTexts?_ofStrings (l : List String) : asTexts? (.ofStrings l) = some l :=
  Json.asList?_array_map Json.asText?_ofString l

theorem Property.ofJson?_toJson (p : Property) : ofJson? p.toJson = some p := by
  have hrecord : p.toJson.asRecord? ["visibility", "type", "name"] =
      some [.ofString p.visibility, .ofString p.type, .ofString p.name] :=
    Json.asRecord?_ofMembers (by simp)
  rw [ofJson?, hrecord]
  simp only [Json.asText?_ofString]
  rfl

theorem ComponentNode.ofJson?_toJson (c : ComponentNode) : ofJson? c.toJson = some c := by
  have hrecord : c.toJson.asRecord? ["name", "properties", "used_in_system"] =
      some [.ofString c.name, .array (c.properties.map Property.toJson), .ofStrings c.usedBy] :=
    Json.asRecord?_ofMembers (by simp)
  have hproperties := Json.asList?_array_map Property.ofJson?_toJson c.properties
  rw [ofJson?, hrecord]
  simp only [Json.asText?_ofString, hproperties, asTexts?_ofStrings]
  rfl

theorem SystemNode.ofJson?_toJson (s : SystemNode) : ofJson? s.toJson = some s := by
  have hrecord : s.toJson.asRecord? ["name", "componentTypes", "uses_system", "used_in_system"] =
      some [.ofString s.name, .ofStrings s.componentTypes, .ofStrings s.usesSystems,
        .ofStrings s.usedBy] :=
    Json.asRecord?_ofMembers (by simp)
  rw [ofJson?, hrecord]
  simp only [Json.asText?_ofString, asTexts?_ofStrings]
  rfl

open Json

theorem Property.textual_toJson (p : Property) : Textual p.toJson := by
  apply textual_ofMembers
  simp [textual_ofString]

theorem ComponentNode.textual_toJson (c : ComponentNode) : Textual c.toJson := by
  have hproperties := textual_array_map Property.textual_toJson c.properties
  apply textual_ofMembers
  simp [textual_ofString, textual_ofStrings, hproperties]

theorem SystemNode.textual_toJson (s : SystemNode) : Textual s.toJson := by
  apply textual_ofMembers
  simp [textual_ofString, textual_ofStrings]

theorem Property.depth_toJson (p : Property) : depth p.toJson ≤ 1 := by
  apply depth_ofMembers
  simp [depth_ofString]

theorem ComponentNode.depth_toJson (c : ComponentNode) : depth c.toJson ≤ 3 := by
  have hproperties := depth_array_map Property.depth_toJson c.properties
  have hused := depth_ofStrings c.usedBy
  apply depth_ofMembers
  simp [depth_ofString]
  omega

theorem SystemNode.depth_toJson (s : SystemNode) : depth s.toJson ≤ 3 := by
  have hcomponents := depth_ofStrings s.componentTypes
  have huses := depth_ofStrings s.usesSystems
  have hused := depth_ofStrings s.usedBy
  apply depth_ofMembers
  simp [depth_ofString]
  omega

namespace Document

variable {α : Type} {node : α → Json} {back : Json → Option α}

theorem textual_toJson (h : ∀ v, Textual (node v)) (c : Catalog α) : Textual (toJson node c) := by
  apply textual_ofMembers
  intro m hm
  obtain ⟨e, -, rfl⟩ := List.mem_map.mp hm
  exact h e.2

theorem read_prettyText (h : ∀ v, Textual (node v)) (c : Catalog α) :
    Json.read (toJson node c).prettyText.toList = some (toJson node c) := by
  rw [prettyText, String.toList_ofList]
  exact (textual_toJson h c).read_pretty

theorem ofJson?_toJson (h : ∀ v, back (node v) = some v) (c : Catalog α) :
    ofJson? back (toJson node c) = some c := by
  have hentries : ((c.entries.map fun e => (e.1, node e.2)).map
      fun m => (escape m.1.toList, m.2)).mapM (memberEntry back) = some c.entries := by
    rw [List.map_map]
    refine mapM_map_back ?_ c.entries
    intro e
    simp only [memberEntry, Function.comp_apply, string?_escape, h]
  rw [toJson, ofMembers, ofJson?, hentries, Option.map_some, Catalog.ofList_entries]

theorem ofText?_prettyText (htext : ∀ v, Textual (node v)) (hback : ∀ v, back (node v) = some v)
    (c : Catalog α) : ofText? back (toJson node c).prettyText = some c := by
  rw [ofText?, read_prettyText htext, Option.bind_some, ofJson?_toJson hback]

theorem parse?_prettyText (htext : ∀ v, Textual (node v)) (hdepth : ∀ v, depth (node v) ≤ 3)
    (c : Catalog α) : parse? (toJson node c).prettyText = some (toJson node c) := by
  have hshallow : (toJson node c).depth ≤ depthLimit := by
    have hle : (toJson node c).depth ≤ 3 + 1 := by
      apply depth_ofMembers
      intro m hm
      obtain ⟨e, -, rfl⟩ := List.mem_map.mp hm
      exact hdepth e.2
    exact Nat.le_trans hle (by decide)
  have hsound := (textual_toJson htext c).isSound hshallow
  simp only [parse?, read_prettyText htext, hsound, if_true]

end Document

theorem Graph.texts_read_back (g : Graph) :
    Document.ofText? ComponentNode.ofJson? g.componentsText = some g.components ∧
      Document.ofText? SystemNode.ofJson? g.systemsText = some g.systems :=
  ⟨Document.ofText?_prettyText ComponentNode.textual_toJson ComponentNode.ofJson?_toJson _,
    Document.ofText?_prettyText SystemNode.textual_toJson SystemNode.ofJson?_toJson _⟩

end EntityGraph
