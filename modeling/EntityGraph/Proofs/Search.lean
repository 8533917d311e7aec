import EntityGraph.Proofs.Documents

namespace EntityGraph

namespace Json

theorem member?_ofMembers (name : String) (l : List (String × Json)) :
    (ofMembers l).member? name = (l.reverse.find? (·.1 = name)).map (·.2) := by
  have hname : (fun m : List Char × Json => string? m.1 == some name) ∘
      (fun m : String × Json => (escape m.1.toList, m.2)) = fun m => decide (m.1 = name) := by
    funext m
    rw [Function.comp_apply, string?_escape, Bool.eq_iff_iff]
    simp
  rw [ofMembers, member?, ← List.map_reverse, List.find?_map, hname, Option.map_map]
  rfl

end Json

open Json

namespace Document

theorem references_of_member? {entry : Json} {field : String} {l : List String}
    (h : entry.member? field = some (.ofStrings l)) : references entry field = l := by
  have htexts : asText? ∘ ofString = some := funext asText?_ofString
  rw [references, h]
  simp only [ofStrings]
  rw [List.filterMap_map, htexts, List.filterMap_some]

theorem references_of_no_member {entry : Json} {field : String}
    (h : entry.member? field = none) : references entry field = [] := by
  rw [references, h]

theorem references_component (c : ComponentNode) :
    references c.toJson "uses_system" ++ references c.toJson "used_in_system" =
      Searchable.references c := by
  have huses : c.toJson.member? "uses_system" = none := by
    rw [ComponentNode.toJson, member?_ofMembers]
    simp
  have hused : c.toJson.member? "used_in_system" = some (.ofStrings c.usedBy) := by
    rw [ComponentNode.toJson, member?_ofMembers]
    simp
  rw [references_of_no_member huses, references_of_member? hused]
  rfl

theorem references_system (s : SystemNode) :
    references s.toJson "uses_system" ++ references s.toJson "used_in_system" =
      Searchable.references s := by
  have huses : s.toJson.member? "uses_system" = some (.ofStrings s.usesSystems) := by
    rw [SystemNode.toJson, member?_ofMembers]
    simp
  have hused : s.toJson.member? "used_in_system" = some (.ofStrings s.usedBy) := by
    rw [SystemNode.toJson, member?_ofMembers]
    simp
  rw [references_of_member? huses, references_of_member? hused]
  rfl

section Search

variable {α : Type} {node : α → Json}

theorem entries_toJson (c : Catalog α) :
    (Catalog.ofList ((c.entries.map fun e => (escape e.1.toList, node e.2)).filterMap
      fun m => (string? m.1).map (·, m.2))).entries = c.entries.map fun e => (e.1, node e.2) := by
  have hmembers : (c.entries.map fun e => (escape e.1.toList, node e.2)).filterMap
      (fun m => (string? m.1).map (·, m.2)) = c.entries.map fun e => (e.1, node e.2) := by
    rw [List.filterMap_map, ← List.filterMap_eq_map]
    congr 1
    funext e
    rw [Function.comp_apply, string?_escape]
    rfl
  rw [hmembers]
  apply Catalog.entries_ofList
  rw [List.pairwise_map]
  exact c.sorted

theorem filter_toJson [Searchable α] (h : ∀ v, references (node v) "uses_system" ++
      references (node v) "used_in_system" = Searchable.references v)
    (c : Catalog α) (term : String) :
    filter (toJson node c) term = Query.filterKeys c term := by
  have hmembers : toJson node c = .object (c.entries.map fun e => (escape e.1.toList, node e.2)) := by
    rw [toJson, ofMembers, List.map_map]
    rfl
  rw [hmembers, filter, entries_toJson, List.filter_map, List.map_map, Query.filterKeys]
  simp only [Function.comp_def, h]

end Search

end Document

theorem Query.nodup_filterKeys {α : Type} [Searchable α] (c : Catalog α) (term : String) :
    (filterKeys c term).Nodup :=
  c.nodup_keys.sublist (List.filter_sublist.map _)

/-- What a search in the document says of the entries: their keys that match, each once, from the
value of the document as from its text. -/
structure Document.FindsKeys {α : Type} [Searchable α] (node : α → Json) (c : Catalog α)
    (text : String) (term : String) : Prop where
  ofValue : filter (toJson node c) term = Query.filterKeys c term
  ofText : ∃ document, parse? text = some document ∧ filter document term = Query.filterKeys c term
  nodup : (Query.filterKeys c term).Nodup

theorem Document.findsKeys {α : Type} [Searchable α] {node : α → Json}
    (htext : ∀ v, Textual (node v)) (hdepth : ∀ v, depth (node v) ≤ 3)
    (h : ∀ v, references (node v) "uses_system" ++
      references (node v) "used_in_system" = Searchable.references v)
    (c : Catalog α) (term : String) : FindsKeys node c (toJson node c).prettyText term where
  ofValue := filter_toJson h c term
  ofText := ⟨_, parse?_prettyText htext hdepth c, filter_toJson h c term⟩
  nodup := Query.nodup_filterKeys c term

theorem Graph.findsKeys_texts (g : Graph) (term : String) :
    Document.FindsKeys ComponentNode.toJson g.components g.componentsText term ∧
      Document.FindsKeys SystemNode.toJson g.systems g.systemsText term :=
  ⟨Document.findsKeys ComponentNode.textual_toJson ComponentNode.depth_toJson
      Document.references_component g.components term,
    Document.findsKeys SystemNode.textual_toJson SystemNode.depth_toJson
      Document.references_system g.systems term⟩

end EntityGraph
