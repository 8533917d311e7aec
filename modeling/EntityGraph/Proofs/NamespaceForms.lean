import EntityGraph.Proofs.AlikeNodes
import EntityGraph.Proofs.PathBelow

namespace EntityGraph

namespace Extraction

variable {source : Array UInt8} {outer scope : List String} {n : Node} {ns ms : List Node}

section Segments

def segmentsOf (name : String) : List String :=
  (((Text.splitOn '.' name.toList).map Text.trim).filter (!·.isEmpty)).map String.ofList

theorem segments_eq {name : String} (h : (namespaceName? n).map (·.text source) = some name) :
    segments source n = segmentsOf name := by
  obtain ⟨m, hm, rfl⟩ := Option.map_eq_some_iff.mp h
  rw [segments, hm, segmentsOf]

theorem segmentsOf_dotted (a b : String) :
    segmentsOf (a ++ "." ++ b) = segmentsOf a ++ segmentsOf b := by
  have hsplit : Text.splitOn '.' (a ++ "." ++ b).toList =
      Text.splitOn '.' a.toList ++ Text.splitOn '.' b.toList := by
    rw [String.toList_append, String.toList_append, List.append_assoc]
    exact Text.splitOn_append a.toList b.toList
  rw [segmentsOf, hsplit, List.map_append, List.filter_append, List.map_append]
  rfl

end Segments

section Scope

theorem scopeAfter_of_ne (h : n.kind ≠ .namespaceLine) :
    scopeAfter source outer scope n = scope :=
  if_neg h

def scopeAfterAll (source : Array UInt8) (outer scope : List String) (ns : List Node) :
    List String :=
  ns.foldl (scopeAfter source outer) scope

theorem inScopeAll_append (scope : List String) (ns ms : List Node) :
    inScopeAll source outer scope (ns ++ ms) =
      inScopeAll source outer scope ns ++
        inScopeAll source outer (scopeAfterAll source outer scope ns) ms := by
  induction ns generalizing scope with
  | nil => rw [inScopeAll, scopeAfterAll]; rfl
  | cons n ns ih =>
      rw [List.cons_append, inScopeAll, inScopeAll, ih, List.append_assoc]
      rfl

theorem inScope_outer (h : n.kind ≠ .namespaceLine) (outer' : List String) :
    inScope source outer scope n = inScope source outer' scope n := by
  rw [inScope_eq, inScope_eq, if_neg h, if_neg h]

theorem inScopeAll_outer (h : ∀ n ∈ ns, n.kind ≠ .namespaceLine) (outer' : List String) :
    inScopeAll source outer scope ns = inScopeAll source outer' scope ns := by
  induction ns with
  | nil => rw [inScopeAll, inScopeAll]
  | cons n ns ih =>
      have hn := h n List.mem_cons_self
      rw [inScopeAll, inScopeAll, scopeAfter_of_ne hn, scopeAfter_of_ne hn,
        inScope_outer hn outer', ih fun m hm => h m (List.mem_cons_of_mem n hm)]

theorem inBody_eq (source : Array UInt8) (scope : List String) (isBody : Node → Bool)
    (ns : List Node) :
    inBody source scope isBody ns =
      inScopeAll source scope scope (((ns.find? isBody).map (·.children)).getD []) := by
  induction ns with
  | nil => rw [inBody, List.find?_nil, Option.map_none, Option.getD_none, inScopeAll]
  | cons n ns ih =>
      rw [inBody_cons, List.find?_cons]
      cases isBody n with
      | true => rfl
      | false => exact ih

end Scope

section Forms

structure Encloses (source : Array UInt8) (name : String) (items : List Node) (n : Node) :
    Prop where
  kind : n.kind = .namespaceBlock
  name : (namespaceName? n).map (·.text source) = some name
  body : (n.children.find? n.isBodyOf).map (·.children) = some items

inductive Bare : Node → Prop where
  | of {n : Node} (hblock : n.kind ≠ .namespaceBlock) (hline : n.kind ≠ .namespaceLine)
      (htype : n.kind.declarationKind? = none)
      (hchildren : n.kind.isTransparent = true → ∀ c ∈ n.children, Bare c) : Bare n

structure IsLine (source : Array UInt8) (name : String) (n : Node) : Prop where
  kind : n.kind = .namespaceLine
  name : (namespaceName? n).map (·.text source) = some name
  bare : ∀ c ∈ n.children, Bare c

def IsDotted (source : Array UInt8) (a b : String) (items : List Node) (unit : Node) : Prop :=
  ∃ block, unit.children = [block] ∧ Encloses source (a ++ "." ++ b) items block

def IsNested (source : Array UInt8) (a b : String) (items : List Node) (unit : Node) : Prop :=
  ∃ outer inner, unit.children = [outer] ∧ Encloses source a [inner] outer ∧
    Encloses source b items inner

def IsLined (source : Array UInt8) (a b : String) (before items : List Node) (unit : Node) :
    Prop :=
  ∃ line, unit.children = before ++ line :: items ∧ IsLine source (a ++ "." ++ b) line

end Forms

section Bare

theorem inScopeAll_eq_nil (h : ∀ n ∈ ns, ∀ scope, inScope source outer scope n = []) :
    inScopeAll source outer scope ns = [] := by
  induction ns generalizing scope with
  | nil => rw [inScopeAll]
  | cons n ns ih =>
      rw [inScopeAll, h n List.mem_cons_self, ih fun m hm => h m (List.mem_cons_of_mem n hm)]
      rfl

theorem inScope_of_bare (h : Bare n) (outer scope : List String) :
    inScope source outer scope n = [] := by
  induction h generalizing outer scope with
  | of hblock hline htype _ ih =>
      rw [inScope_eq, if_neg hblock, if_neg hline, htype]
      split
      · contradiction
      · split
        · rename_i htransparent
          exact inScopeAll_eq_nil fun c hc scope => ih htransparent c hc _ scope
        · rfl

end Bare

section Units

variable {name a b : String} {before items : List Node} {unit : Node}

theorem Encloses.inScope_eq (h : Encloses source name items n) (outer scope : List String) :
    inScope source outer scope n =
      inScopeAll source (scope ++ segmentsOf name) (scope ++ segmentsOf name) items := by
  rw [Extraction.inScope_eq, if_pos h.kind, inBody_eq, h.body, segments_eq h.name,
    Option.getD_some]

theorem Encloses.inScopeAll_eq (h : Encloses source name items n) (outer scope : List String) :
    inScopeAll source outer scope [n] =
      inScopeAll source (scope ++ segmentsOf name) (scope ++ segmentsOf name) items := by
  rw [inScopeAll, inScopeAll, List.append_nil, h.inScope_eq]

theorem IsLine.inScopeAll_cons (h : IsLine source name n) (scope : List String)
    (ns : List Node) :
    inScopeAll source [] scope (n :: ns) = inScopeAll source [] (segmentsOf name) ns := by
  have hnothing : inScope source [] scope n = [] := by
    rw [inScope_eq, if_neg (by rw [h.kind]; decide), if_pos h.kind]
    exact inScopeAll_eq_nil fun c hc scope => inScope_of_bare (h.bare c hc) _ scope
  rw [inScopeAll, hnothing, scopeAfter, if_pos h.kind, segments_eq h.name]
  rfl

theorem IsDotted.declarations_eq (h : IsDotted source a b items unit) :
    unit.declarations source =
      inScopeAll source (segmentsOf a ++ segmentsOf b) (segmentsOf a ++ segmentsOf b) items := by
  obtain ⟨block, hunit, hblock⟩ := h
  rw [Node.declarations, hunit, hblock.inScopeAll_eq, segmentsOf_dotted, List.nil_append]

theorem IsNested.declarations_eq (h : IsNested source a b items unit) :
    unit.declarations source =
      inScopeAll source (segmentsOf a ++ segmentsOf b) (segmentsOf a ++ segmentsOf b) items := by
  obtain ⟨outer, inner, hunit, houter, hinner⟩ := h
  rw [Node.declarations, hunit, houter.inScopeAll_eq, hinner.inScopeAll_eq, List.nil_append]

theorem IsLined.declarations_eq (h : IsLined source a b before items unit) :
    unit.declarations source =
      inScopeAll source [] [] before ++
        inScopeAll source [] (segmentsOf a ++ segmentsOf b) items := by
  obtain ⟨line, hunit, hline⟩ := h
  rw [Node.declarations, hunit, inScopeAll_append, hline.inScopeAll_cons, segmentsOf_dotted]

end Units

section Equivalence

open Node Declaration

/-- The items may be written anew in each unit, so they are compared as alike and not as equal; only
a line that stands among them, and not deeper, would tell the forms apart. -/
theorem unplaced_declarations_forms {s s₂ s₃ : Array UInt8} {a b : String}
    {items items₂ items₃ before : List Node} {dotted nested lined above : Node}
    (hdotted : IsDotted s a b items dotted) (hnested : IsNested s₂ a b items₂ nested)
    (hlined : IsLined s₃ a b before items₃ lined)
    (h₂ : List.Forall₂ (Alike s s₂) items items₂) (h₃ : List.Forall₂ (Alike s s₃) items items₃)
    (hnoLine : ∀ n ∈ items, n.kind ≠ .namespaceLine) (habove : above.children = before) :
    unplacedAll (nested.declarations s₂) = unplacedAll (dotted.declarations s) ∧
      (∃ below, lined.declarations s₃ = above.declarations s₃ ++ below ∧
        unplacedAll below = unplacedAll (dotted.declarations s)) ∧
      ∀ (unit : Node) (after : List Node), unit.children = before ++ after →
        above.declarations s₃ <+: unit.declarations s₃ := by
  refine ⟨?_, ⟨inScopeAll s₃ [] (segmentsOf a ++ segmentsOf b) items₃, ?_, ?_⟩, ?_⟩
  · rw [hnested.declarations_eq, hdotted.declarations_eq]
    exact (inScopeAll_congr h₂ _ _).symm
  · rw [hlined.declarations_eq, Node.declarations, habove]
  · rw [hdotted.declarations_eq, inScopeAll_outer hnoLine []]
    exact (inScopeAll_congr h₃ _ _).symm
  · intro unit after hunit
    rw [Node.declarations, Node.declarations, hunit, habove, inScopeAll_append]
    exact List.prefix_append _ _

section Written

def written (text : String) : Array UInt8 :=
  (Utf8.encode text.toList).toArray

def classAt (i : Nat) : Node :=
  let declarator : Node := ⟨.variableDeclarator, none, i + 12, i + 13,
    [⟨.identifier, some .name, i + 12, i + 13, []⟩]⟩
  let field : Node := ⟨.fieldDeclaration, none, i + 8, i + 14,
    [⟨.variableDeclaration, none, i + 8, i + 13,
      [⟨.other, some .type, i + 8, i + 11, []⟩, declarator]⟩]⟩
  ⟨.classDeclaration, none, i, i + 15,
    [⟨.identifier, some .name, i + 6, i + 7, []⟩,
      ⟨.declarationList, some .body, i + 7, i + 15, [field]⟩]⟩

def blockAt (start length stop : Nat) (items : List Node) : Node :=
  ⟨.namespaceBlock, none, start, stop,
    [⟨.identifier, some .name, start + 10, start + 10 + length, []⟩,
      ⟨.declarationList, some .body, start + 10 + length, stop, items⟩]⟩

def unitOf (children : List Node) : Node :=
  ⟨.unit, none, 0, 0, children⟩

def emptyClass : Node :=
  ⟨.classDeclaration, none, 0, 9,
    [⟨.identifier, some .name, 6, 7, []⟩, ⟨.declarationList, some .body, 7, 9, []⟩]⟩

def lineAt (start length : Nat) : Node :=
  ⟨.namespaceLine, none, start, start + 11 + length,
    [⟨.qualifiedName, some .name, start + 10, start + 10 + length, []⟩]⟩

theorem unplaced_declarations_forms_written :
    let s := written "namespace A.B{class C{int x;}}"
    let s₂ := written "namespace A{namespace B{class C{int x;}}}"
    let s₃ := written "class D{} namespace A.B;class C{int x;}"
    let dotted := unitOf [blockAt 0 3 30 [classAt 14]]
    let nested := unitOf [blockAt 0 1 41 [blockAt 12 1 40 [classAt 24]]]
    let lined := unitOf [emptyClass, lineAt 10 3, classAt 24]
    (dotted.declarations s).map (·.fullName) = ["A.B.C"] ∧
      unplacedAll (nested.declarations s₂) = unplacedAll (dotted.declarations s) ∧
      (lined.declarations s₃).map (·.fullName) = ["D", "A.B.C"] ∧
      ∃ below, lined.declarations s₃ = (unitOf [emptyClass]).declarations s₃ ++ below ∧
        unplacedAll below = unplacedAll (dotted.declarations s) := by
  intro s s₂ s₃ dotted nested lined
  have hdotted : IsDotted s "A" "B" [classAt 14] dotted := ⟨_, rfl, rfl, by decide +kernel, rfl⟩
  have hnested : IsNested s₂ "A" "B" [classAt 24] nested :=
    ⟨_, _, rfl, ⟨rfl, by decide +kernel, rfl⟩, ⟨rfl, by decide +kernel, rfl⟩⟩
  have hbare : ∀ c ∈ (lineAt 10 3).children, Bare c := by
    intro c hc
    obtain rfl := List.mem_singleton.mp hc
    exact .of (by decide) (by decide) rfl nofun
  have hlined : IsLined s₃ "A" "B" [emptyClass] [classAt 24] lined :=
    ⟨_, rfl, rfl, by decide +kernel, hbare⟩
  have h₂ : List.Forall₂ (Alike s s₂) [classAt 14] [classAt 24] :=
    allAlike_iff.mp (by decide +kernel)
  have h₃ : List.Forall₂ (Alike s s₃) [classAt 14] [classAt 24] :=
    allAlike_iff.mp (by decide +kernel)
  obtain ⟨hsame, hbelow, -⟩ := unplaced_declarations_forms hdotted hnested hlined h₂ h₃
    (by decide) (show (unitOf [emptyClass]).children = [emptyClass] from rfl)
  exact ⟨by decide +kernel, hsame, by decide +kernel, hbelow⟩

end Written

end Equivalence

end Extraction

end EntityGraph
