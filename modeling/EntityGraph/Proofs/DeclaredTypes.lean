import EntityGraph.Proofs.Catalog
import EntityGraph.Proofs.Components
import EntityGraph.Proofs.Cuts
import EntityGraph.Proofs.TypeNodes
import Mathlib.Data.List.DropRight
import Mathlib.Data.List.Forall2
import Mathlib.Data.List.TakeWhile

namespace EntityGraph

namespace Extraction

structure IsSegment (s : String) : Prop where
  nonempty : s ≠ ""
  trimmed : Text.trim s.toList = s.toList
  dotless : '.' ∉ s.toList

structure Describes (source : Array UInt8) (d : Declaration) (x : Reach) : Prop where
  kind : x.node.kind.declarationKind? = some d.kind
  shortName : x.node.nameNode?.map (·.text source) = some d.shortName
  named : d.shortName ≠ ""
  fullName : d.fullName = ".".intercalate (x.scope ++ [d.shortName])
  baseTypes : d.baseTypes = NameSet.ofList (baseTypes source x.node)

structure Declares (source : Array UInt8) (root : Node) (x : Reach) : Prop where
  reached : Reached source .inNamespace [] root.children x
  kind : x.node.kind.declarationKind?.isSome
  named : ∃ name, x.node.nameNode?.map (·.text source) = some name ∧ name ≠ ""

structure Faithful (source : Array UInt8) (root : Node) (ds : List Declaration) : Prop where
  corresponds : ∃ types : List Reach,
    InOrder types ∧ (∀ x, x ∈ types ↔ Declares source root x) ∧
      List.Forall₂ (Describes source) (Declaration.preorderAll ds) types ∧
      List.Forall₂ (fun d x => Describes source d x ∧ ∀ s ∈ x.scope, IsSegment s) ds
        (types.filter (·.level = .inNamespace))
  named : ∀ d ∈ Declaration.preorderAll ds, d.shortName ≠ ""
  baseTypes : ∀ d ∈ Declaration.preorderAll ds, ∀ base ∈ d.baseTypes.toList, base ≠ ""
  nested : ∀ d ∈ Declaration.preorderAll ds, ∀ n ∈ d.nested,
    n.fullName = d.fullName ++ "." ++ n.shortName
  distinct : ∀ d ∈ Declaration.preorderAll ds, ∀ n ∈ Declaration.preorderAll d.nested,
    n.fullName ≠ d.fullName

theorem Describes.below {source : Array UInt8} {d : Declaration} {x : Reach}
    (h : Describes source d x) (way : Position) : Describes source d (x.below way) :=
  ⟨h.kind, h.shortName, h.named, h.fullName, h.baseTypes⟩

theorem forall₂_below {source : Array UInt8} {ds : List Declaration} {xs : List Reach}
    (h : List.Forall₂ (Describes source) ds xs) (way : Position) :
    List.Forall₂ (Describes source) ds (xs.map (·.below way)) := by
  rw [List.forall₂_map_right_iff]
  exact h.imp fun _ _ hd => hd.below way

end Extraction

theorem intercalate_concat (separator : String) {parts : List String} (hne : parts ≠ [])
    (last : String) :
    separator.intercalate (parts ++ [last]) = separator.intercalate parts ++ separator ++ last := by
  induction parts with
  | nil => exact absurd rfl hne
  | cons part parts ih =>
      cases parts with
      | nil => simp [String.intercalate_cons_cons, String.append_assoc]
      | cons next parts =>
          rw [List.cons_append, List.cons_append, String.intercalate_cons_cons,
            ← List.cons_append, ih (by simp), String.intercalate_cons_cons]
          simp only [String.append_assoc]

namespace Declaration

@[elab_as_elim]
theorem nested_induct {motive : Declaration → Prop}
    (node : ∀ d, (∀ n ∈ d.nested, motive n) → motive d) (d : Declaration) : motive d := by
  refine node d fun n hn => ?_
  have hsize : sizeOf n < sizeOf d.nested := List.sizeOf_lt_of_mem hn
  have hnested : sizeOf d.nested < sizeOf d := by
    cases d
    simp only [Declaration.mk.sizeOf_spec]
    omega
  exact nested_induct node n
termination_by sizeOf d

theorem mem_preorderAll {ds : List Declaration} {x : Declaration} :
    x ∈ preorderAll ds ↔ ∃ d ∈ ds, x ∈ d.preorder := by
  induction ds with
  | nil => simp [preorderAll]
  | cons d ds ih => simp [preorderAll, ih]

theorem mem_preorder_trans {d e x : Declaration} (he : e ∈ d.preorder) (hx : x ∈ e.preorder) :
    x ∈ d.preorder := by
  induction d using nested_induct with
  | node d ih =>
      rw [preorder_eq] at he ⊢
      rcases List.mem_cons.mp he with rfl | he
      · rwa [← preorder_eq]
      · obtain ⟨n, hn, he⟩ := mem_preorderAll.mp he
        exact List.mem_cons_of_mem d (mem_preorderAll.mpr ⟨n, hn, ih n hn he⟩)

def NamesNested (ds : List Declaration) : Prop :=
  ∀ d ∈ preorderAll ds, ∀ n ∈ d.nested, n.fullName = d.fullName ++ "." ++ n.shortName

theorem NamesNested.of_mem {ds : List Declaration} (h : NamesNested ds) {d : Declaration}
    (hd : d ∈ preorderAll ds) :
    ∀ e ∈ d.preorder, ∀ n ∈ e.nested, n.fullName = e.fullName ++ "." ++ n.shortName := by
  intro e he
  obtain ⟨top, htop, hd⟩ := mem_preorderAll.mp hd
  exact h e (mem_preorderAll.mpr ⟨top, htop, mem_preorder_trans hd he⟩)

theorem length_lt_of_mem_nested {d : Declaration}
    (h : ∀ e ∈ d.preorder, ∀ n ∈ e.nested, n.fullName = e.fullName ++ "." ++ n.shortName) :
    ∀ n ∈ preorderAll d.nested, d.fullName.length < n.fullName.length := by
  induction d using nested_induct with
  | node d ih =>
      rw [preorder_eq] at h
      intro n hn
      obtain ⟨m, hm, hn⟩ := mem_preorderAll.mp hn
      have hlonger : d.fullName.length < m.fullName.length := by
        have hdot : ".".length = 1 := rfl
        rw [h d List.mem_cons_self m hm, String.length_append, String.length_append]
        omega
      rw [preorder_eq] at hn
      rcases List.mem_cons.mp hn with rfl | hn
      · exact hlonger
      · refine Nat.lt_trans hlonger (ih m hm ?_ n hn)
        intro e he
        exact h e (List.mem_cons_of_mem d (mem_preorderAll.mpr ⟨m, hm, he⟩))

theorem fullName_ne_of_namesNested {ds : List Declaration} (h : NamesNested ds) {d n : Declaration}
    (hd : d ∈ preorderAll ds) (hn : n ∈ preorderAll d.nested) : n.fullName ≠ d.fullName := by
  have hlonger := length_lt_of_mem_nested (h.of_mem hd) n hn
  intro heq
  rw [heq] at hlonger
  exact Nat.lt_irrefl _ hlonger

theorem NamesNested.append {ds es : List Declaration} (hd : NamesNested ds) (he : NamesNested es) :
    NamesNested (ds ++ es) := by
  intro d hmem
  rw [preorderAll_append, List.mem_append] at hmem
  exact hmem.elim (hd d) (he d)

end Declaration

namespace Extraction

open Declaration

section Members

variable {source : Array UInt8} {q scope : List String} {isBody : Node → Bool} {i : Nat}
  {n : Node} {ns : List Node}

theorem declared?_eq_some_iff {kind : DeclarationKind} {name : String} :
    declared? source n = some (kind, name) ↔
      n.kind.declarationKind? = some kind ∧ n.nameNode?.map (·.text source) = some name ∧
        name ≠ "" := by
  unfold declared?
  cases n.kind.declarationKind? with
  | none => simp
  | some k =>
      cases n.nameNode?.map (·.text source) with
      | none => simp
      | some m =>
          by_cases hm : m = ""
          · simp [hm]
          · simp only [String.isEmpty_iff, hm, if_false]
            grind

theorem declares_iff {root : Node} {x : Reach} :
    Declares source root x ↔
      Reached source .inNamespace [] root.children x ∧ (declared? source x.node).isSome := by
  rw [Option.isSome_iff_exists]
  constructor
  · rintro ⟨hreached, hkind, name, hname, hne⟩
    obtain ⟨kind, hkind⟩ := Option.isSome_iff_exists.mp hkind
    exact ⟨hreached, (kind, name), declared?_eq_some_iff.mpr ⟨hkind, hname, hne⟩⟩
  · rintro ⟨hreached, ⟨kind, name⟩, hdeclared⟩
    obtain ⟨hkind, hname, hne⟩ := declared?_eq_some_iff.mp hdeclared
    exact ⟨hreached, by rw [hkind]; rfl, name, hname, hne⟩

theorem describes_assemble {kind : DeclarationKind} {name : String} {level : Level}
    (h : declared? source n = some (kind, name)) (m : Members) :
    Describes source (assemble source n kind (q ++ [name]) name m) ⟨[], level, q, n⟩ := by
  obtain ⟨hkind, hname, hne⟩ := declared?_eq_some_iff.mp h
  exact ⟨hkind, hname, hne, Text.join_eq_intercalate "." (q ++ [name]), rfl⟩

theorem namesNested_assemble {kind : DeclarationKind} {name : String} {m : Members} (hq : q ≠ [])
    (hnamed : ∀ d ∈ m.nested, d.fullName = ".".intercalate (q ++ [d.shortName]))
    (hnested : NamesNested m.nested) : NamesNested [assemble source n kind q name m] := by
  intro d hd
  rw [preorderAll, preorderAll, List.append_nil, preorder_eq] at hd
  rcases List.mem_cons.mp hd with rfl | hd
  · intro e he
    have hfull : (assemble source n kind q name m).fullName = ".".intercalate q :=
      Text.join_eq_intercalate "." q
    rw [hfull, hnamed e he, intercalate_concat "." hq]
  · exact hnested d hd

def memberTypes (source : Array UInt8) (q : List String) (n : Node) : List Declaration :=
  if n.kind.isTransparent then (members source q n.children).nested
  else
    match declared? source n with
    | none => []
    | some (kind, name) =>
        [assemble source n kind (q ++ [name]) name
          (bodyMembers source (q ++ [name]) n.isBodyOf n.children)]

theorem nested_members_cons (q : List String) (n : Node) (ns : List Node) :
    (members source q (n :: ns)).nested =
      memberTypes source q n ++ (members source q ns).nested := by
  obtain ⟨kind, role, start, stop, children⟩ := n
  rw [members, memberTypes]
  by_cases hfield : kind = .fieldDeclaration
  · subst hfield
    rw [declared?_eq_none_of_kind rfl]
    rfl
  · by_cases hmethod : kind = .methodDeclaration
    · subst hmethod
      rw [declared?_eq_none_of_kind rfl]
      rfl
    · simp only [hfield, hmethod, if_false]
      by_cases htransparent : kind.isTransparent = true
      · simp only [htransparent, if_true]
        rfl
      · simp only [htransparent, Bool.false_eq_true, if_false]
        cases declared? source ⟨kind, role, start, stop, children⟩ <;> rfl

theorem bodyMembers_cons (q : List String) (isBody : Node → Bool) (n : Node) (ns : List Node) :
    bodyMembers source q isBody (n :: ns) =
      if isBody n then members source q n.children else bodyMembers source q isBody ns := by
  cases n
  rw [bodyMembers]

structure MatchesInType (source : Array UInt8) (q : List String) (ds : List Declaration)
    (xs : List Reach) : Prop where
  described : List.Forall₂ (Describes source) (preorderAll ds) xs
  named : ∀ d ∈ ds, d.fullName = ".".intercalate (q ++ [d.shortName])
  nested : NamesNested ds

theorem MatchesInType.nil : MatchesInType source q [] [] :=
  ⟨.nil, by simp, by simp [NamesNested, preorderAll]⟩

theorem MatchesInType.append {ds es : List Declaration} {xs ys : List Reach}
    (hd : MatchesInType source q ds xs) (he : MatchesInType source q es ys) :
    MatchesInType source q (ds ++ es) (xs ++ ys) where
  described := by
    rw [preorderAll_append]
    exact List.rel_append hd.described he.described
  named d hmem := (List.mem_append.mp hmem).elim (hd.named d) (he.named d)
  nested := hd.nested.append he.nested

theorem MatchesInType.below {ds : List Declaration} {xs : List Reach}
    (h : MatchesInType source q ds xs) (way : Position) :
    MatchesInType source q ds (xs.map (·.below way)) :=
  ⟨forall₂_below h.described way, h.named, h.nested⟩

theorem matches_bodyMembers
    (h : ∀ b ∈ ns, MatchesInType source q (members source q b.children).nested
      (typesAmong source .inType q q 0 b.children)) :
    MatchesInType source q (bodyMembers source q isBody ns).nested
      (typesInBody source .inType q isBody i ns) := by
  induction ns generalizing i with
  | nil =>
      rw [bodyMembers, typesInBody]
      exact .nil
  | cons n ns ih =>
      rw [bodyMembers_cons, typesInBody_cons]
      split
      · exact (h n List.mem_cons_self).below [i]
      · exact ih fun b hb => h b (List.mem_cons_of_mem n hb)

theorem matches_assemble {kind : DeclarationKind} {name : String} {m : Members} {xs : List Reach}
    (level : Level) (h : declared? source n = some (kind, name))
    (hm : MatchesInType source (q ++ [name]) m.nested xs) :
    MatchesInType source q [assemble source n kind (q ++ [name]) name m]
      (⟨[], level, q, n⟩ :: xs) where
  described := by
    rw [preorderAll, preorderAll, List.append_nil, preorder_eq]
    exact .cons (describes_assemble h m) hm.described
  named d hd := by
    rw [List.mem_singleton] at hd
    subst hd
    exact Text.join_eq_intercalate "." (q ++ [name])
  nested := namesNested_assemble (by simp) hm.named hm.nested

theorem matches_memberTypes
    (hchildren : ∀ q, MatchesInType source q (members source q n.children).nested
      (typesAmong source .inType q q 0 n.children))
    (hbodies : ∀ b ∈ n.children, ∀ q, MatchesInType source q (members source q b.children).nested
      (typesAmong source .inType q q 0 b.children)) :
    MatchesInType source q (memberTypes source q n) (typesAt source .inType q n) := by
  rw [memberTypes, typesAt_eq]
  cases hdeclared : declared? source n with
  | none =>
      simp only
      split
      · exact hchildren q
      · exact .nil
  | some p =>
      obtain ⟨kind, name⟩ := p
      have hopaque : ¬n.kind.isTransparent = true := by
        intro h
        have hkind := declarationKind?_of_declared? hdeclared
        rw [declarationKind?_of_isTransparent h] at hkind
        cases hkind
      rw [if_neg hopaque]
      exact matches_assemble _ hdeclared (matches_bodyMembers fun b hb => hbodies b hb _)

theorem matches_members (ns : List Node) :
    ∀ (q outer : List String) (i : Nat), MatchesInType source q (members source q ns).nested
      (typesAmong source .inType outer q i ns) := by
  induction ns using siblings_induct with
  | below ns ih =>
      intro q outer i
      induction ns generalizing i with
      | nil =>
          rw [members, typesAmong]
          exact .nil
      | cons n ns ihns =>
          obtain ⟨hchildren, hbodies⟩ := ih n List.mem_cons_self
          have hn : MatchesInType source q (memberTypes source q n) (typesAt source .inType q n) :=
            matches_memberTypes (fun q => hchildren q q 0) fun b hb q => hbodies b hb q q 0
          rw [nested_members_cons, typesAmong]
          exact (hn.below [i]).append (ihns (fun m hm => ih m (List.mem_cons_of_mem n hm)) (i + 1))

end Members

section Scope

variable {source : Array UInt8} {outer scope : List String} {isBody : Node → Bool} {i : Nat}
  {n : Node} {ns : List Node}

structure Matches (source : Array UInt8) (ds : List Declaration) (xs : List Reach) : Prop where
  described : List.Forall₂ (Describes source) (preorderAll ds) xs
  top : List.Forall₂ (Describes source) ds (xs.filter (·.level = .inNamespace))
  nested : NamesNested ds

theorem Matches.nil : Matches source [] [] :=
  ⟨.nil, .nil, by simp [NamesNested, preorderAll]⟩

theorem Matches.append {ds es : List Declaration} {xs ys : List Reach}
    (hd : Matches source ds xs) (he : Matches source es ys) :
    Matches source (ds ++ es) (xs ++ ys) where
  described := by
    rw [preorderAll_append]
    exact List.rel_append hd.described he.described
  top := by
    rw [List.filter_append]
    exact List.rel_append hd.top he.top
  nested := hd.nested.append he.nested

theorem Matches.below {ds : List Declaration} {xs : List Reach} (h : Matches source ds xs)
    (way : Position) : Matches source ds (xs.map (·.below way)) where
  described := forall₂_below h.described way
  top := by
    rw [List.filter_map]
    exact forall₂_below h.top way
  nested := h.nested

theorem level_of_reached {level : Level} {x : Reach} (h : Reached source level outer ns x)
    (hlevel : level = .inType) : x.level = .inType := by
  induction h with
  | here hn => exact hlevel
  | namespaceBody hn hkind hbody hx ih => cases hlevel
  | namespaceLine hn hkind hx ih => cases hlevel
  | container hn hkind hx ih => exact ih hlevel
  | typeBody hn hname hbody hx ih => exact ih rfl

theorem level_of_mem_typesInBody {x : Reach}
    (h : x ∈ typesInBody source .inType scope isBody i ns) : x.level = .inType := by
  obtain ⟨j, b, y, -, -, hy, rfl⟩ := mem_typesInBody.mp h
  have hlevel : y.level = .inType := level_of_reached (mem_typesAmong_iff.mp hy).1 rfl
  exact hlevel

theorem inBody_cons (scope : List String) (isBody : Node → Bool) (n : Node) (ns : List Node) :
    inBody source scope isBody (n :: ns) =
      if isBody n then inScopeAll source scope scope n.children
      else inBody source scope isBody ns := by
  cases n
  rw [inBody]

theorem inScope_eq (outer scope : List String) (n : Node) :
    inScope source outer scope n =
      if n.kind = .namespaceBlock then
        inBody source (scope ++ segments source n) n.isBodyOf n.children
      else if n.kind = .namespaceLine then
        inScopeAll source (outer ++ segments source n) (outer ++ segments source n) n.children
      else if n.kind.declarationKind?.isSome then (declaration? source scope n).toList
      else if n.kind.isTransparent then inScopeAll source scope scope n.children
      else [] := by
  cases n
  rw [inScope]

theorem matches_inBody
    (h : ∀ b ∈ ns, Matches source (inScopeAll source scope scope b.children)
      (typesAmong source .inNamespace scope scope 0 b.children)) :
    Matches source (inBody source scope isBody ns)
      (typesInBody source .inNamespace scope isBody i ns) := by
  induction ns generalizing i with
  | nil =>
      rw [inBody, typesInBody]
      exact .nil
  | cons n ns ih =>
      rw [inBody_cons, typesInBody_cons]
      split
      · exact (h n List.mem_cons_self).below [i]
      · exact ih fun b hb => h b (List.mem_cons_of_mem n hb)

theorem matches_declaration? {kind : DeclarationKind} {name : String}
    (h : declared? source n = some (kind, name)) :
    Matches source (declaration? source scope n).toList (typesAt source .inNamespace scope n) := by
  have hbody := @matches_bodyMembers source (scope ++ [name]) n.isBodyOf 0 n.children
    fun b _ => matches_members b.children _ _ 0
  have hinner : (typesInBody source .inType (scope ++ [name]) n.isBodyOf 0 n.children).filter
      (·.level = .inNamespace) = [] := by
    rw [List.filter_eq_nil_iff]
    intro x hx
    simp [level_of_mem_typesInBody hx]
  have hn := matches_assemble .inNamespace h hbody
  rw [declaration?, typesAt_eq, h]
  refine ⟨hn.described, ?_, hn.nested⟩
  rw [List.filter_cons_of_pos (by simp), hinner]
  exact .cons (describes_assemble h _) .nil

theorem matches_inScope
    (hchildren : ∀ scope, Matches source (inScopeAll source scope scope n.children)
      (typesAmong source .inNamespace scope scope 0 n.children))
    (hbodies : ∀ b ∈ n.children, ∀ scope, Matches source (inScopeAll source scope scope b.children)
      (typesAmong source .inNamespace scope scope 0 b.children)) :
    Matches source (inScope source outer scope n)
      (typesAt source .inNamespace (scopeAfter source outer scope n) n) := by
  rw [inScope_eq, scopeAfter]
  cases hdeclared : declared? source n with
  | some p =>
      have hkind := declarationKind?_of_declared? hdeclared
      have hblock : n.kind ≠ .namespaceBlock := by
        intro h
        rw [h] at hkind
        cases hkind
      have hline : n.kind ≠ .namespaceLine := by
        intro h
        rw [h] at hkind
        cases hkind
      rw [if_neg hblock, if_neg hline, if_neg hline, if_pos (by rw [hkind]; rfl)]
      exact matches_declaration? hdeclared
  | none =>
      rw [typesAt_eq, hdeclared]
      by_cases hblock : n.kind = .namespaceBlock
      · simp only [hblock, if_true, NodeKind.isTransparent, Bool.false_eq_true, if_false,
          reduceCtorEq]
        exact matches_inBody fun b hb => hbodies b hb _
      · by_cases hline : n.kind = .namespaceLine
        · simp only [hline, reduceCtorEq, if_true, if_false, NodeKind.isTransparent,
            Bool.false_eq_true]
          exact hchildren _
        · simp only [hblock, hline, if_false]
          by_cases htype : n.kind.declarationKind?.isSome = true
          · have hopaque : ¬n.kind.isTransparent = true := by
              intro h
              rw [declarationKind?_of_isTransparent h] at htype
              cases htype
            rw [if_pos htype, if_neg hopaque, declaration?, hdeclared]
            exact .nil
          · rw [if_neg htype]
            split
            · exact hchildren scope
            · exact .nil

theorem matches_inScopeAll (ns : List Node) :
    ∀ (outer scope : List String) (i : Nat), Matches source (inScopeAll source outer scope ns)
      (typesAmong source .inNamespace outer scope i ns) := by
  induction ns using siblings_induct with
  | below ns ih =>
      intro outer scope i
      induction ns generalizing scope i with
      | nil =>
          rw [inScopeAll, typesAmong]
          exact .nil
      | cons n ns ihns =>
          obtain ⟨hchildren, hbodies⟩ := ih n List.mem_cons_self
          have hn : Matches source (inScope source outer scope n)
              (typesAt source .inNamespace (scopeAfter source outer scope n) n) :=
            matches_inScope (fun s => hchildren s s 0) fun b hb s => hbodies b hb s s 0
          have hns := ihns (fun m hm => ih m (List.mem_cons_of_mem n hm))
            (scopeAfter source outer scope n) (i + 1)
          rw [inScopeAll, typesAmong]
          exact (hn.below [i]).append hns

end Scope

section Segments

variable {source : Array UInt8}

theorem isSegment_of_mem_segments {n : Node} {s : String} (h : s ∈ segments source n) :
    IsSegment s := by
  unfold segments at h
  split at h
  · cases h
  · obtain ⟨cs, hcs, rfl⟩ := List.mem_map.mp h
    obtain ⟨hcs, hne⟩ := List.mem_filter.mp hcs
    obtain ⟨part, hpart, rfl⟩ := List.mem_map.mp hcs
    refine ⟨?_, ?_, ?_⟩
    · intro hempty
      rw [String.ofList_eq_empty_iff] at hempty
      rw [hempty] at hne
      cases hne
    · rw [String.toList_ofList]
      exact Text.trimBy_trimBy _ part
    · rw [String.toList_ofList]
      exact fun hdot => Text.not_mem_of_mem_splitOn hpart ((Text.trimBy_infix _ part).subset hdot)

theorem isSegment_of_mem_scopeAt {outer : List String} {ns : List Node} {i : Nat} {level : Level}
    (houter : ∀ s ∈ outer, IsSegment s) : ∀ s ∈ scopeAt source outer ns i level, IsSegment s := by
  cases level with
  | inType => exact houter
  | inNamespace =>
      intro s hs
      simp only [scopeAt] at hs
      split at hs
      · exact houter s hs
      · exact (List.mem_append.mp hs).elim (houter s) isSegment_of_mem_segments

theorem isSegment_of_reached {level : Level} {outer : List String} {ns : List Node} {x : Reach}
    (h : Reached source level outer ns x) (hlevel : x.level = .inNamespace)
    (houter : ∀ s ∈ outer, IsSegment s) : ∀ s ∈ x.scope, IsSegment s := by
  induction h with
  | here hn => exact isSegment_of_mem_scopeAt houter
  | namespaceBody hn hkind hbody hx ih =>
      refine ih hlevel fun s hs => ?_
      exact (List.mem_append.mp hs).elim (isSegment_of_mem_scopeAt houter s)
        isSegment_of_mem_segments
  | namespaceLine hn hkind hx ih => exact ih hlevel (isSegment_of_mem_scopeAt houter)
  | container hn hkind hx ih => exact ih hlevel (isSegment_of_mem_scopeAt houter)
  | @typeBody _ _ _ _ _ _ _ _ _ x hn hname hbody hx ih =>
      have hinner : x.level = .inType := level_of_reached hx rfl
      rw [Reach.below, hinner] at hlevel
      cases hlevel

end Segments

theorem ne_empty_of_mem_baseTypes {source : Array UInt8} {n : Node} {base : String}
    (h : base ∈ (NameSet.ofList (baseTypes source n)).toList) : base ≠ "" := by
  obtain ⟨e, he, rfl⟩ := Catalog.exists_mem_of_mem_keys_ofList h
  obtain ⟨text, htext, rfl⟩ := List.mem_map.mp he
  unfold baseTypes at htext
  split at htext
  · cases htext
  · intro hempty
    obtain ⟨-, hne⟩ := List.mem_filter.mp htext
    simp only at hempty
    rw [hempty] at hne
    cases hne

theorem exists_of_forall₂ {α β : Type} {R : α → β → Prop} {as : List α} {bs : List β}
    (h : List.Forall₂ R as bs) {a : α} (ha : a ∈ as) : ∃ b, R a b := by
  obtain ⟨i, rfl⟩ := List.mem_iff_get.mp ha
  exact ⟨_, h.get i.isLt (h.length_eq ▸ i.isLt)⟩

theorem faithful_declarations (source : Array UInt8) (root : Node) :
    Faithful source root (root.declarations source) := by
  let types := typesAmong source .inNamespace [] [] 0 root.children
  have hmatches : Matches source (root.declarations source) types :=
    matches_inScopeAll root.children [] [] 0
  have hdeclares : ∀ x, x ∈ types ↔ Declares source root x := fun x =>
    mem_typesAmong_iff.trans declares_iff.symm
  have hsegments : ∀ x ∈ types.filter (·.level = .inNamespace), ∀ s ∈ x.scope, IsSegment s := by
    intro x hx
    obtain ⟨hmem, hlevel⟩ := List.mem_filter.mp hx
    exact isSegment_of_reached (mem_typesAmong_iff.mp hmem).1 (of_decide_eq_true hlevel)
      (by simp)
  have htop : List.Forall₂ (fun d x => Describes source d x ∧ ∀ s ∈ x.scope, IsSegment s)
      (root.declarations source) (types.filter (·.level = .inNamespace)) := by
    obtain ⟨hlength, hget⟩ := List.forall₂_iff_get.mp hmatches.top
    exact List.forall₂_iff_get.mpr
      ⟨hlength, fun i hi hi' => ⟨hget i hi hi', hsegments _ (List.get_mem _ _)⟩⟩
  refine
    { corresponds := ⟨types, inOrder_typesAmong _ _ _ _ _, hdeclares, hmatches.described, htop⟩
      named := ?_
      baseTypes := ?_
      nested := hmatches.nested
      distinct := fun d hd n hn => fullName_ne_of_namesNested hmatches.nested hd hn }
  · intro d hd
    obtain ⟨x, hx⟩ := exists_of_forall₂ hmatches.described hd
    exact hx.named
  · intro d hd base hbase
    obtain ⟨x, hx⟩ := exists_of_forall₂ hmatches.described hd
    rw [hx.baseTypes] at hbase
    exact ne_empty_of_mem_baseTypes hbase

end Extraction

end EntityGraph
