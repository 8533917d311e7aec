import EntityGraph.Extraction
import Mathlib.Data.List.Basic
import Mathlib.Data.List.Induction

namespace EntityGraph

theorem Node.sizeOf_children_lt (n : Node) : sizeOf n.children < sizeOf n := by
  cases n
  simp only [Node.mk.sizeOf_spec]
  omega

namespace Extraction

/-- The way down to a node: which child to take at every step. -/
abbrev Position := List Nat

inductive Level where
  | inNamespace
  | inType
  deriving DecidableEq, Repr

structure Reach where
  position : Position
  level : Level
  scope : List String
  node : Node

def Reach.below (way : Position) (x : Reach) : Reach :=
  { x with position := way ++ x.position }

def IsBodyAt (n : Node) (j : Nat) (body : Node) : Prop :=
  n.children.findIdx? n.isBodyOf = some j ∧ n.children[j]? = some body

section Reached

variable (source : Array UInt8)

/-- The scope of a sibling: that of the last namespace line up to it, or else the outer one. In a
type there are no such lines. -/
def scopeAt (outer : List String) (siblings : List Node) (i : Nat) : Level → List String
  | .inType => outer
  | .inNamespace =>
      match ((siblings.take (i + 1)).filter (·.kind = .namespaceLine)).getLast? with
      | none => outer
      | some line => outer ++ segments source line

/-- The nodes that are reached from siblings in a scope: the siblings themselves, and those below
namespaces, containers, and types that have a name. -/
inductive Reached : Level → List String → List Node → Reach → Prop
  | here {level outer siblings i n} (hn : siblings[i]? = some n) :
      Reached level outer siblings ⟨[i], level, scopeAt source outer siblings i level, n⟩
  | namespaceBody {outer siblings i n j body x} (hn : siblings[i]? = some n)
      (hkind : n.kind = .namespaceBlock) (hbody : IsBodyAt n j body)
      (hx : Reached .inNamespace
        (scopeAt source outer siblings i .inNamespace ++ segments source n) body.children x) :
      Reached .inNamespace outer siblings (x.below [i, j])
  | namespaceLine {outer siblings i n x} (hn : siblings[i]? = some n)
      (hkind : n.kind = .namespaceLine)
      (hx : Reached .inNamespace (scopeAt source outer siblings i .inNamespace) n.children x) :
      Reached .inNamespace outer siblings (x.below [i])
  | container {level outer siblings i n x} (hn : siblings[i]? = some n)
      (hkind : n.kind.isTransparent = true)
      (hx : Reached level (scopeAt source outer siblings i level) n.children x) :
      Reached level outer siblings (x.below [i])
  | typeBody {level outer siblings i n kind name j body x} (hn : siblings[i]? = some n)
      (hname : declared? source n = some (kind, name)) (hbody : IsBodyAt n j body)
      (hx : Reached .inType (scopeAt source outer siblings i level ++ [name]) body.children x) :
      Reached level outer siblings (x.below [i, j])

def nextScope (outer scope : List String) (n : Node) : Level → List String
  | .inType => scope
  | .inNamespace => scopeAfter source outer scope n

mutual

def typesAt (level : Level) (scope : List String) : Node → List Reach
  | n@⟨kind, _, _, _, children⟩ =>
      match declared? source n with
      | some (_, name) =>
          ⟨[], level, scope, n⟩ :: typesInBody .inType (scope ++ [name]) n.isBodyOf 0 children
      | none =>
          if kind.isTransparent then typesAmong level scope scope 0 children
          else
            match level with
            | .inType => []
            | .inNamespace =>
                if kind = .namespaceBlock then
                  typesInBody .inNamespace (scope ++ segments source n) n.isBodyOf 0 children
                else if kind = .namespaceLine then typesAmong .inNamespace scope scope 0 children
                else []

def typesInBody (level : Level) (scope : List String) (isBody : Node → Bool) (i : Nat) :
    List Node → List Reach
  | [] => []
  | n@⟨_, _, _, _, children⟩ :: rest =>
      if isBody n then (typesAmong level scope scope 0 children).map (·.below [i])
      else typesInBody level scope isBody (i + 1) rest

def typesAmong (level : Level) (outer scope : List String) (i : Nat) : List Node → List Reach
  | [] => []
  | n :: ns =>
      (typesAt level (nextScope source outer scope n level) n).map (·.below [i]) ++
        typesAmong level outer (nextScope source outer scope n level) (i + 1) ns

end

end Reached

@[elab_as_elim]
theorem siblings_induct {motive : List Node → Prop}
    (below : ∀ ns,
      (∀ n ∈ ns, motive n.children ∧ ∀ b ∈ n.children, motive b.children) → motive ns)
    (ns : List Node) : motive ns := by
  refine below ns fun n hn => ?_
  have hsize : sizeOf n < sizeOf ns := List.sizeOf_lt_of_mem hn
  have hchildren := n.sizeOf_children_lt
  refine ⟨siblings_induct below n.children, fun b hb => ?_⟩
  have hb' : sizeOf b < sizeOf n.children := List.sizeOf_lt_of_mem hb
  have hbelow := b.sizeOf_children_lt
  exact siblings_induct below b.children
termination_by sizeOf ns

section Types

variable {source : Array UInt8} {level : Level} {outer scope : List String} {i : Nat}
  {n : Node} {ns : List Node} {x : Reach}

theorem typesAt_eq (level : Level) (scope : List String) (n : Node) :
    typesAt source level scope n =
      match declared? source n with
      | some (_, name) =>
          ⟨[], level, scope, n⟩ ::
            typesInBody source .inType (scope ++ [name]) n.isBodyOf 0 n.children
      | none =>
          if n.kind.isTransparent then typesAmong source level scope scope 0 n.children
          else
            match level with
            | .inType => []
            | .inNamespace =>
                if n.kind = .namespaceBlock then
                  typesInBody source .inNamespace (scope ++ segments source n) n.isBodyOf 0
                    n.children
                else if n.kind = .namespaceLine then
                  typesAmong source .inNamespace scope scope 0 n.children
                else [] := by
  cases n
  rfl

theorem typesInBody_cons (level : Level) (scope : List String) (isBody : Node → Bool) (i : Nat)
    (n : Node) (ns : List Node) :
    typesInBody source level scope isBody i (n :: ns) =
      if isBody n then (typesAmong source level scope scope 0 n.children).map (·.below [i])
      else typesInBody source level scope isBody (i + 1) ns := by
  cases n
  rw [typesInBody]

theorem mem_typesInBody {isBody : Node → Bool} :
    x ∈ typesInBody source level scope isBody i ns ↔
      ∃ j b y, ns.findIdx? isBody = some j ∧ ns[j]? = some b ∧
        y ∈ typesAmong source level scope scope 0 b.children ∧ x = y.below [i + j] := by
  induction ns generalizing i with
  | nil => simp [typesInBody]
  | cons n ns ih =>
      rw [typesInBody_cons, List.findIdx?_cons]
      by_cases hn : isBody n = true
      · rw [if_pos hn, if_pos hn, List.mem_map]
        constructor
        · rintro ⟨y, hy, rfl⟩
          exact ⟨0, n, y, rfl, rfl, hy, rfl⟩
        · rintro ⟨j, b, y, hj, hb, hy, rfl⟩
          cases hj
          cases hb
          exact ⟨y, hy, rfl⟩
      · rw [if_neg hn, if_neg hn, ih]
        constructor
        · rintro ⟨j, b, y, hj, hb, hy, rfl⟩
          refine ⟨j + 1, b, y, by rw [hj]; rfl, hb, hy, ?_⟩
          rw [Nat.add_assoc, Nat.add_comm 1 j]
        · rintro ⟨j, b, y, hmap, hb, hy, rfl⟩
          obtain ⟨m, hm, rfl⟩ := Option.map_eq_some_iff.mp hmap
          refine ⟨m, b, y, hm, hb, hy, ?_⟩
          rw [Nat.add_assoc, Nat.add_comm 1 m]

def scopeFrom (source : Array UInt8) (outer scope : List String) (ns : List Node) (k : Nat)
    (level : Level) : List String :=
  (ns.take (k + 1)).foldl (fun s n => nextScope source outer s n level) scope

theorem foldl_scopeAfter (ns : List Node) :
    ns.foldl (scopeAfter source outer) scope =
      match (ns.filter (·.kind = .namespaceLine)).getLast? with
      | none => scope
      | some line => outer ++ segments source line := by
  induction ns using List.reverseRecOn with
  | nil => rfl
  | append_singleton ns n ih =>
      rw [List.foldl_append, List.foldl_cons, List.foldl_nil, ih, List.filter_append, scopeAfter]
      by_cases hn : n.kind = .namespaceLine
      · simp [hn]
      · simp [hn]

theorem scopeFrom_outer (ns : List Node) (k : Nat) (level : Level) :
    scopeFrom source outer outer ns k level = scopeAt source outer ns k level := by
  cases level with
  | inType =>
      have hconst : ∀ l : List Node, l.foldl (fun s _ => s) outer = outer := by
        intro l
        induction l with
        | nil => rfl
        | cons _ _ ih => exact ih
      exact hconst _
  | inNamespace => exact foldl_scopeAfter _

theorem mem_typesAmong :
    x ∈ typesAmong source level outer scope i ns ↔
      ∃ k n y, ns[k]? = some n ∧
        y ∈ typesAt source level (scopeFrom source outer scope ns k level) n ∧
          x = y.below [i + k] := by
  induction ns generalizing i scope with
  | nil => simp [typesAmong]
  | cons n ns ih =>
      rw [typesAmong, List.mem_append, List.mem_map, ih]
      constructor
      · rintro (⟨y, hy, rfl⟩ | ⟨k, m, y, hm, hy, rfl⟩)
        · exact ⟨0, n, y, rfl, hy, rfl⟩
        · refine ⟨k + 1, m, y, hm, hy, ?_⟩
          rw [Nat.add_assoc, Nat.add_comm 1 k]
      · rintro ⟨k, m, y, hm, hy, rfl⟩
        cases k with
        | zero =>
            cases hm
            exact .inl ⟨y, hy, rfl⟩
        | succ k =>
            refine .inr ⟨k, m, y, hm, hy, ?_⟩
            rw [Nat.add_assoc, Nat.add_comm 1 k]

theorem reached_of_mem {ns : List Node} :
    ∀ {level : Level} {outer : List String} {x : Reach},
      x ∈ typesAmong source level outer outer 0 ns →
        Reached source level outer ns x ∧ (declared? source x.node).isSome := by
  induction ns using siblings_induct with
  | below ns ih =>
      intro level outer x hx
      obtain ⟨k, n, y, hn, hy, rfl⟩ := mem_typesAmong.mp hx
      have hmem : n ∈ ns := List.mem_of_getElem? hn
      rw [Nat.zero_add]
      rw [scopeFrom_outer, typesAt_eq] at hy
      cases hdeclared : declared? source n with
      | some p =>
          obtain ⟨kind, name⟩ := p
          rw [hdeclared] at hy
          rcases List.mem_cons.mp hy with rfl | hy
          · exact ⟨.here hn, by rw [Reach.below, hdeclared]; rfl⟩
          · obtain ⟨j, b, z, hj, hb, hz, rfl⟩ := mem_typesInBody.mp hy
            obtain ⟨hreached, hname⟩ := (ih n hmem).2 b (List.mem_of_getElem? hb) hz
            rw [Nat.zero_add]
            exact ⟨.typeBody hn hdeclared ⟨hj, hb⟩ hreached, hname⟩
      | none =>
          rw [hdeclared] at hy
          simp only at hy
          split at hy
          · rename_i hkind
            obtain ⟨hreached, hname⟩ := (ih n hmem).1 hy
            exact ⟨.container hn hkind hreached, hname⟩
          · cases level with
            | inType => cases hy
            | inNamespace =>
                simp only at hy
                split at hy
                · rename_i hkind
                  obtain ⟨j, b, z, hj, hb, hz, rfl⟩ := mem_typesInBody.mp hy
                  obtain ⟨hreached, hname⟩ := (ih n hmem).2 b (List.mem_of_getElem? hb) hz
                  rw [Nat.zero_add]
                  exact ⟨.namespaceBody hn hkind ⟨hj, hb⟩ hreached, hname⟩
                · split at hy
                  · rename_i hkind
                    obtain ⟨hreached, hname⟩ := (ih n hmem).1 hy
                    exact ⟨.namespaceLine hn hkind hreached, hname⟩
                  · cases hy

theorem declarationKind?_of_declared? {p : DeclarationKind × String}
    (h : declared? source n = some p) : n.kind.declarationKind? = some p.1 := by
  unfold declared? at h
  grind

theorem declared?_eq_none_of_kind (h : n.kind.declarationKind? = none) :
    declared? source n = none := by
  cases hdeclared : declared? source n with
  | none => rfl
  | some p =>
      have hkind := declarationKind?_of_declared? hdeclared
      rw [h] at hkind
      cases hkind

theorem declarationKind?_of_isTransparent (h : n.kind.isTransparent = true) :
    n.kind.declarationKind? = none := by
  cases hkind : n.kind <;> rw [hkind] at h <;> first | rfl | cases h

theorem mem_of_reached {level : Level} {outer : List String} {ns : List Node} {x : Reach}
    (h : Reached source level outer ns x) (hname : (declared? source x.node).isSome) :
    x ∈ typesAmong source level outer outer 0 ns := by
  induction h with
  | @here level outer ns i n hn =>
      obtain ⟨p, hp⟩ := Option.isSome_iff_exists.mp hname
      simp only at hp
      refine mem_typesAmong.mpr ⟨i, n, ⟨[], level, _, n⟩, hn, ?_, by rw [Nat.zero_add]; rfl⟩
      rw [scopeFrom_outer, typesAt_eq, hp]
      exact List.mem_cons_self
  | @namespaceBody outer ns i n j body x hn hkind hbody hx ih =>
      refine mem_typesAmong.mpr ⟨i, n, x.below [j], hn, ?_, by rw [Nat.zero_add]; rfl⟩
      rw [scopeFrom_outer, typesAt_eq, declared?_eq_none_of_kind (by rw [hkind]; rfl), hkind]
      exact mem_typesInBody.mpr
        ⟨j, body, x, hbody.1, hbody.2, ih hname, by rw [Nat.zero_add]⟩
  | @namespaceLine outer ns i n x hn hkind hx ih =>
      refine mem_typesAmong.mpr ⟨i, n, x, hn, ?_, by rw [Nat.zero_add]⟩
      rw [scopeFrom_outer, typesAt_eq, declared?_eq_none_of_kind (by rw [hkind]; rfl), hkind]
      exact ih hname
  | @container level outer ns i n x hn hkind hx ih =>
      refine mem_typesAmong.mpr ⟨i, n, x, hn, ?_, by rw [Nat.zero_add]⟩
      rw [scopeFrom_outer, typesAt_eq,
        declared?_eq_none_of_kind (declarationKind?_of_isTransparent hkind)]
      simp only [hkind, if_true]
      exact ih hname
  | @typeBody level outer ns i n kind name j body x hn hdeclared hbody hx ih =>
      refine mem_typesAmong.mpr ⟨i, n, x.below [j], hn, ?_, by rw [Nat.zero_add]; rfl⟩
      rw [scopeFrom_outer, typesAt_eq, hdeclared]
      refine List.mem_cons_of_mem _ (mem_typesInBody.mpr ?_)
      exact ⟨j, body, x, hbody.1, hbody.2, ih hname, by rw [Nat.zero_add]⟩

theorem mem_typesAmong_iff :
    x ∈ typesAmong source level outer outer 0 ns ↔
      Reached source level outer ns x ∧ (declared? source x.node).isSome :=
  ⟨reached_of_mem, fun h => mem_of_reached h.1 h.2⟩

def InOrder (xs : List Reach) : Prop :=
  xs.Pairwise fun a b => a.position < b.position

theorem InOrder.below {xs : List Reach} (h : InOrder xs) (i : Nat) :
    InOrder (xs.map (·.below [i])) := by
  rw [InOrder, List.pairwise_map]
  exact List.Pairwise.imp (fun hab => List.cons_lt_cons_iff.mpr (.inr ⟨rfl, hab⟩)) h

theorem inOrder_typesInBody {isBody : Node → Bool}
    (h : ∀ b ∈ ns, InOrder (typesAmong source level scope scope 0 b.children)) :
    InOrder (typesInBody source level scope isBody i ns) := by
  induction ns generalizing i with
  | nil => exact .nil
  | cons n ns ih =>
      rw [typesInBody_cons]
      split
      · exact (h n List.mem_cons_self).below i
      · exact ih fun b hb => h b (List.mem_cons_of_mem n hb)

theorem inOrder_typesAt
    (h : ∀ level scope, InOrder (typesAmong source level scope scope 0 n.children))
    (hb : ∀ b ∈ n.children, ∀ level scope,
      InOrder (typesAmong source level scope scope 0 b.children)) :
    InOrder (typesAt source level scope n) := by
  rw [typesAt_eq]
  split
  · refine List.pairwise_cons.mpr ⟨?_, inOrder_typesInBody fun b hbn => hb b hbn _ _⟩
    intro x hx
    obtain ⟨j, b, y, -, -, -, rfl⟩ := mem_typesInBody.mp hx
    exact List.nil_lt_cons _ _
  · split
    · exact h level scope
    · split
      · exact .nil
      · split
        · exact inOrder_typesInBody fun b hbn => hb b hbn _ _
        · split
          · exact h .inNamespace scope
          · exact .nil

theorem inOrder_typesAmong (ns : List Node) :
    ∀ (level : Level) (outer scope : List String) (i : Nat),
      InOrder (typesAmong source level outer scope i ns) := by
  induction ns using siblings_induct with
  | below ns ih =>
      intro level outer scope i
      induction ns generalizing scope i with
      | nil => exact .nil
      | cons n ns ihns =>
          obtain ⟨hchildren, hbodies⟩ := ih n List.mem_cons_self
          have hn : InOrder (typesAt source level (nextScope source outer scope n level) n) :=
            inOrder_typesAt (fun level scope => hchildren level scope scope 0)
              fun b hb level scope => hbodies b hb level scope scope 0
          have hns := ihns (fun m hm => ih m (List.mem_cons_of_mem n hm))
            (nextScope source outer scope n level) (i + 1)
          rw [typesAmong]
          refine List.pairwise_append.mpr ⟨hn.below i, hns, ?_⟩
          intro a ha b hb
          obtain ⟨y, -, rfl⟩ := List.mem_map.mp ha
          obtain ⟨k, m, z, -, -, rfl⟩ := mem_typesAmong.mp hb
          refine List.cons_lt_cons_iff.mpr (.inl ?_)
          omega

end Types

end Extraction

end EntityGraph
