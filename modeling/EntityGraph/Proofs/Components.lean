import EntityGraph.Proofs.ScanOrder

namespace EntityGraph

structure StablySorted (xs ys : List FieldStatement) : Prop where
  perm : ys.Perm xs
  ordered : ys.Pairwise fun a b => a.start ≤ b.start
  stable : ∀ start, ys.filter (·.start = start) = xs.filter (·.start = start)

theorem stablySorted_mergeSort (xs : List FieldStatement) :
    StablySorted xs (xs.mergeSort fun a b => a.start ≤ b.start) := by
  have trans : ∀ a b c : FieldStatement, decide (a.start ≤ b.start) = true →
      decide (b.start ≤ c.start) = true → decide (a.start ≤ c.start) = true := by
    intro a b c hab hbc
    simp only [decide_eq_true_eq] at hab hbc ⊢
    exact Nat.le_trans hab hbc
  have total : ∀ a b : FieldStatement,
      (decide (a.start ≤ b.start) || decide (b.start ≤ a.start)) = true := by
    intro a b
    simp only [Bool.or_eq_true, decide_eq_true_eq]
    exact Nat.le_total a.start b.start
  have hperm := List.mergeSort_perm xs fun a b => decide (a.start ≤ b.start)
  refine ⟨hperm, ?_, ?_⟩
  · exact (List.pairwise_mergeSort trans total xs).imp fun h => by simpa using h
  · intro start
    -- statements that begin at one place are sorted among themselves, so sorting keeps them in order
    have hequal : (xs.filter (·.start = start)).Pairwise
        fun a b => decide (a.start ≤ b.start) = true := by
      rw [List.pairwise_filter]
      refine List.pairwise_of_forall ?_
      intro a b ha hb
      simp only [decide_eq_true_eq] at ha hb ⊢
      omega
    have hsub := List.sublist_mergeSort trans total hequal List.filter_sublist
    have hfilter := hsub.filter (·.start = start)
    rw [List.filter_filter] at hfilter
    simp only [Bool.and_self] at hfilter
    exact (hfilter.eq_of_length (hperm.filter _).length_eq.symm).symm

namespace Declaration

def fieldsWithin (d : Declaration) : List FieldStatement :=
  d.preorder.flatMap (·.fields)

theorem stablySorted_allFields (d : Declaration) : StablySorted d.fieldsWithin d.allFields := by
  unfold allFields fieldsWithin
  rw [walk_eq_preorder]
  exact stablySorted_mergeSort _

end Declaration

theorem Text.join_eq_intercalate (separator : String) (parts : List String) :
    Text.join separator parts = separator.intercalate parts := by
  induction parts with
  | nil => simp [Text.join, Text.joinWith]
  | cons part parts ih =>
      cases parts with
      | nil => simp [Text.join, Text.joinWith]
      | cons next parts =>
          rw [String.intercalate_cons_cons, ← ih]
          simp [Text.join, Text.joinWith, String.ofList_append, String.append_assoc]

def FieldStatement.property (f : FieldStatement) : Property where
  visibility := f.modifiers
  type := f.typeText
  name := ", ".intercalate f.names

theorem FieldStatement.toProperty_eq (f : FieldStatement) : f.toProperty = f.property := by
  rw [toProperty, property, Text.join_eq_intercalate]

namespace ComponentType

structure Collected (files : List ScannedFile) (components : List ComponentType) : Prop where
  inScanOrder : InScanOrder files (components.map (·.name))
  mem_iff : ∀ name, name ∈ components.map (·.name) ↔ Carries files .component name
  properties : ∃ fieldsOf : Declaration → List FieldStatement,
    (∀ d, StablySorted d.fieldsWithin (fieldsOf d)) ∧
    ∀ c ∈ components, c.properties =
      (declarationsNamed files c.name).flatMap fun d => (fieldsOf d).map FieldStatement.property

theorem name_ofDeclaration (d : Declaration) : (ofDeclaration d).name = d.fullName := rfl

theorem name_combine (c part : ComponentType) : (combine c part).name = c.name := rfl

theorem properties_combine (c part : ComponentType) :
    (combine c part).properties = c.properties ++ part.properties := rfl

theorem properties_ofDeclaration (d : Declaration) :
    (ofDeclaration d).properties = d.allFields.map FieldStatement.property := by
  rw [ofDeclaration, funext FieldStatement.toProperty_eq]

theorem extract_eq (files : List ScannedFile) :
    extract files = Merge.byName (·.name) combine
      (((scanOrder files).filter (·.fullName ∈ markedNames files .component)).map
        ofDeclaration) := by
  rw [extract, parts, corpus_eq_scanOrder]

theorem firstSeen_extract (files : List ScannedFile) :
    Merge.FirstSeen
      (((scanOrder files).map (·.fullName)).filter (· ∈ markedNames files .component))
      ((extract files).map (·.name)) := by
  rw [extract_eq, List.filter_map]
  exact Merge.firstSeen_byName_map name_ofDeclaration name_combine _

theorem mem_names_extract (files : List ScannedFile) (name : String) :
    name ∈ (extract files).map (·.name) ↔ Carries files .component name := by
  rw [(firstSeen_extract files).mem_iff, List.mem_filter, decide_eq_true_eq, mem_markedNames]
  exact ⟨And.right, fun h => ⟨mem_names_scanOrder_of_carries h, h⟩⟩

theorem properties_of_mem_extract {files : List ScannedFile} {c : ComponentType}
    (hc : c ∈ extract files) :
    c.properties = (declarationsNamed files c.name).flatMap
      fun d => d.allFields.map FieldStatement.property := by
  have hmarked : c.name ∈ markedNames files .component :=
    mem_markedNames.mpr ((mem_names_extract files c.name).mp (List.mem_map_of_mem hc))
  rw [extract_eq] at hc
  rw [Merge.part_of_mem_byName_map name_ofDeclaration name_combine properties_combine hc,
    funext properties_ofDeclaration, List.filter_filter, declarationsNamed]
  congr 1
  refine List.filter_congr ?_
  intro d _
  by_cases hd : d.fullName = c.name <;> simp [hd, hmarked]

theorem collected_extract (files : List ScannedFile) : Collected files (extract files) where
  inScanOrder := inScanOrder_of_firstSeen (firstSeen_extract files)
  mem_iff := mem_names_extract files
  properties := by
    refine ⟨Declaration.allFields, Declaration.stablySorted_allFields, ?_⟩
    intro c hc
    exact properties_of_mem_extract hc

end ComponentType

end EntityGraph
