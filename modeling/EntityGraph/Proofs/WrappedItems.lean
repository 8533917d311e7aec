import EntityGraph.Proofs.TypeBodies

namespace EntityGraph

namespace Declaration

mutual

def unqualified : Declaration → Declaration
  | ⟨_, shortName, kind, baseTypes, fields, nested, methods⟩ =>
      ⟨shortName, shortName, kind, baseTypes, fields, unqualifiedAll nested, methods⟩

def unqualifiedAll : List Declaration → List Declaration
  | [] => []
  | d :: ds => unqualified d :: unqualifiedAll ds

end

theorem unqualifiedAll_eq_map (ds : List Declaration) : unqualifiedAll ds = ds.map unqualified := by
  induction ds with
  | nil => rfl
  | cons d ds ih => rw [unqualifiedAll, ih, List.map_cons]

theorem unqualifiedAll_append (ds es : List Declaration) :
    unqualifiedAll (ds ++ es) = unqualifiedAll ds ++ unqualifiedAll es := by
  simp only [unqualifiedAll_eq_map, List.map_append]

end Declaration

namespace Extraction

open Node Declaration

variable {source : Array UInt8} {outer scope : List String} {n c : Node} {ns ms : List Node}

section Unqualified

theorem unqualified_declaration? (n : Node) :
    ∀ above above', (declaration? source above n).map unqualified =
      (declaration? source above' n).map unqualified := by
  induction n using descendants_induct with
  | node n ih =>
      intro above above'
      rw [declaration?_eq, declaration?_eq]
      cases declared? source n with
      | none => rfl
      | some p =>
          have hnested : ∀ c ∈ opened n.items,
              (declaration? source (above ++ [p.2]) c).map unqualified =
                (declaration? source (above' ++ [p.2]) c).map unqualified :=
            fun c hc => ih c (mem_descendants_of_mem_items hc) _ _
          simp only [Option.map_some, assemble, unqualified, members_eq, unqualifiedAll_eq_map,
            List.map_filterMap, List.filterMap_congr hnested]

theorem unqualified_inScopeAll (ns : List Node) :
    ∀ outer scope outer' scope', unqualifiedAll (inScopeAll source outer scope ns) =
      unqualifiedAll (inScopeAll source outer' scope' ns) := by
  induction ns using siblings_induct with
  | below ns ih =>
      intro outer scope outer' scope'
      induction ns generalizing scope scope' with
      | nil => rw [inScopeAll, inScopeAll]
      | cons n ns ihns =>
          obtain ⟨hchildren, hbodies⟩ := ih n List.mem_cons_self
          have hrest := ihns (fun m hm => ih m (List.mem_cons_of_mem n hm))
          have hhere : unqualifiedAll (inScope source outer scope n) =
              unqualifiedAll (inScope source outer' scope' n) := by
            rw [inScope_eq, inScope_eq]
            split
            · rw [inBody_eq, inBody_eq]
              cases hbody : n.children.find? n.isBodyOf with
              | none => rw [Option.map_none, Option.getD_none, inScopeAll, inScopeAll]
              | some b => exact hbodies b (List.mem_of_find?_eq_some hbody) _ _ _ _
            · split
              · exact hchildren _ _ _ _
              · split
                · rw [unqualifiedAll_eq_map, unqualifiedAll_eq_map, ← Option.toList_map,
                    ← Option.toList_map, unqualified_declaration? n scope scope']
                · split
                  · exact hchildren _ _ _ _
                  · rfl
          rw [inScopeAll, inScopeAll, unqualifiedAll_append, unqualifiedAll_append, hhere,
            hrest _ (scopeAfter source outer' scope' n)]

end Unqualified

section Wrapping

/-- The run holds no namespace line, or else none stands before it and nothing is declared between
it and the next line. -/
def Harmless (fresh : Bool) (run rest : List Node) : Prop :=
  (∀ n ∈ run, n.kind ≠ .namespaceLine) ∨
    (fresh = true ∧ ∀ n ∈ rest.takeWhile (·.kind ≠ .namespaceLine), Bare n)

/-- The second list is the first with runs of it put into containers, to any depth and also in the
bodies of blocks; a container may hold nodes of its own that declare nothing. Each run that goes
into a container meets the condition, `fresh` telling whether no namespace line stands before it. -/
inductive Wraps (source : Array UInt8) (condition : Bool → List Node → List Node → Prop) :
    Bool → List Node → List Node → Prop
  | nil {fresh : Bool} : Wraps source condition fresh [] []
  | item {fresh : Bool} {n : Node} {ns ms : List Node}
      (h : Wraps source condition (fresh && n.kind ≠ .namespaceLine) ns ms) :
      Wraps source condition fresh (n :: ns) (n :: ms)
  | bare {fresh : Bool} {m : Node} {ns ms : List Node} (hm : Bare m)
      (h : Wraps source condition fresh ns ms) : Wraps source condition fresh ns (m :: ms)
  | block {fresh : Bool} {n m : Node} {ns ms : List Node} (hn : n.kind = .namespaceBlock)
      (hm : m.kind = .namespaceBlock) (hname : segments source n = segments source m)
      (hitems : Wraps source condition true n.items m.items)
      (h : Wraps source condition fresh ns ms) :
      Wraps source condition fresh (n :: ns) (m :: ms)
  | container {fresh : Bool} {c : Node} {run ns ms : List Node} (hc : c.kind.isTransparent = true)
      (hrun : condition fresh run ns) (hchildren : Wraps source condition true run c.children)
      (h : Wraps source condition fresh ns ms) :
      Wraps source condition fresh (run ++ ns) (c :: ms)

theorem kind_ne_line_of_bare (h : Bare n) : n.kind ≠ .namespaceLine := by
  cases h with
  | of _ hline _ _ => exact hline

theorem kind_ne_line_of_isTransparent (h : c.kind.isTransparent = true) :
    c.kind ≠ .namespaceLine := by
  intro hkind
  rw [hkind] at h
  cases h

theorem inScope_of_isTransparent (h : c.kind.isTransparent = true) :
    inScope source outer scope c = inScopeAll source scope scope c.children := by
  have hblock : c.kind ≠ .namespaceBlock := by
    intro hkind
    rw [hkind] at h
    cases h
  rw [inScope_eq, if_neg hblock, if_neg (kind_ne_line_of_isTransparent h),
    declarationKind?_of_isTransparent h]
  simp [h]

theorem inScope_of_block (h : n.kind = .namespaceBlock) :
    inScope source outer scope n =
      inScopeAll source (scope ++ segments source n) (scope ++ segments source n) n.items := by
  rw [inScope_eq, if_pos h, inBody_eq, find?_isBodyOf, items]

theorem inScope_of_line (h : n.kind = .namespaceLine) :
    inScope source outer scope n =
      inScopeAll source (outer ++ segments source n) (outer ++ segments source n) n.children := by
  rw [inScope_eq, if_neg (by rw [h]; decide), if_pos h]

theorem inScopeAll_cons_of_ne (h : n.kind ≠ .namespaceLine) (ns : List Node) :
    inScopeAll source outer scope (n :: ns) =
      inScope source outer scope n ++ inScopeAll source outer scope ns := by
  rw [inScopeAll, scopeAfter_of_ne h]

theorem unqualified_of_wraps {condition : Bool → List Node → List Node → Prop} {fresh : Bool}
    (h : Wraps source condition fresh ns ms) :
    ∀ outer scope, unqualifiedAll (inScopeAll source outer scope ms) =
      unqualifiedAll (inScopeAll source outer scope ns) := by
  induction h with
  | nil => intro _ _; rfl
  | item _ ih =>
      intro outer scope
      rw [inScopeAll, inScopeAll, unqualifiedAll_append, unqualifiedAll_append, ih]
  | bare hm _ ih =>
      intro outer scope
      rw [inScopeAll_cons_of_ne (kind_ne_line_of_bare hm), inScope_of_bare hm, List.nil_append, ih]
  | @block _ n m _ _ hn hm hname _ _ ihitems ih =>
      intro outer scope
      have hn' : n.kind ≠ .namespaceLine := by rw [hn]; decide
      have hm' : m.kind ≠ .namespaceLine := by rw [hm]; decide
      rw [inScopeAll_cons_of_ne hn', inScopeAll_cons_of_ne hm', inScope_of_block hn,
        inScope_of_block hm, unqualifiedAll_append, unqualifiedAll_append, hname, ihitems, ih]
  | @container _ c run ns _ hc _ _ _ ihchildren ih =>
      intro outer scope
      rw [inScopeAll_cons_of_ne (kind_ne_line_of_isTransparent hc), inScope_of_isTransparent hc,
        inScopeAll_append, unqualifiedAll_append, unqualifiedAll_append, ihchildren, ih,
        unqualified_inScopeAll run scope scope outer scope,
        unqualified_inScopeAll ns outer scope outer (scopeAfterAll source outer scope run)]

theorem inScopeAll_eq_of_bare (h : ∀ n ∈ ns.takeWhile (·.kind ≠ .namespaceLine), Bare n)
    (outer scope scope' : List String) :
    inScopeAll source outer scope ns = inScopeAll source outer scope' ns := by
  induction ns with
  | nil => rw [inScopeAll, inScopeAll]
  | cons n ns ih =>
      by_cases hn : n.kind = .namespaceLine
      · rw [inScopeAll, inScopeAll, inScope_of_line hn, inScope_of_line hn, scopeAfter, scopeAfter,
          if_pos hn, if_pos hn]
      · rw [List.takeWhile_cons_of_pos (by simpa using hn)] at h
        have hbare := h n List.mem_cons_self
        rw [inScopeAll_cons_of_ne hn, inScopeAll_cons_of_ne hn, inScope_of_bare hbare,
          inScope_of_bare hbare, ih fun m hm => h m (List.mem_cons_of_mem n hm)]

theorem scopeAfterAll_of_noLine (h : ∀ n ∈ ns, n.kind ≠ .namespaceLine) :
    scopeAfterAll source outer scope ns = scope := by
  induction ns with
  | nil => rfl
  | cons n ns ih =>
      rw [scopeAfterAll, List.foldl_cons, scopeAfter_of_ne (h n List.mem_cons_self)]
      exact ih fun m hm => h m (List.mem_cons_of_mem n hm)

theorem inScopeAll_of_wraps {fresh : Bool} (h : Wraps source Harmless fresh ns ms) :
    ∀ outer scope, (fresh = true → outer = scope) →
      inScopeAll source outer scope ms = inScopeAll source outer scope ns := by
  induction h with
  | nil => intro _ _ _; rfl
  | @item fresh n _ _ _ ih =>
      intro outer scope hfresh
      rw [inScopeAll, inScopeAll, ih]
      intro h
      rw [Bool.and_eq_true, decide_eq_true_eq] at h
      rw [scopeAfter_of_ne h.2, hfresh h.1]
  | bare hm _ ih =>
      intro outer scope hfresh
      rw [inScopeAll_cons_of_ne (kind_ne_line_of_bare hm), inScope_of_bare hm, List.nil_append,
        ih outer scope hfresh]
  | @block _ n m _ _ hn hm hname _ _ ihitems ih =>
      intro outer scope hfresh
      have hn' : n.kind ≠ .namespaceLine := by rw [hn]; decide
      have hm' : m.kind ≠ .namespaceLine := by rw [hm]; decide
      rw [inScopeAll_cons_of_ne hn', inScopeAll_cons_of_ne hm', inScope_of_block hn,
        inScope_of_block hm, hname, ihitems _ _ fun _ => rfl, ih outer scope hfresh]
  | @container _ c run ns _ hc hrun _ _ ihchildren ih =>
      intro outer scope hfresh
      rw [inScopeAll_cons_of_ne (kind_ne_line_of_isTransparent hc), inScope_of_isTransparent hc,
        inScopeAll_append, ihchildren scope scope fun _ => rfl, ih outer scope hfresh]
      rcases hrun with hline | ⟨htrue, hrest⟩
      · rw [inScopeAll_outer hline outer, scopeAfterAll_of_noLine hline]
      · rw [← hfresh htrue, inScopeAll_eq_of_bare hrest outer outer]

theorem declarations_of_wraps {unit wrapped : Node}
    (h : Wraps source (fun _ _ _ => True) true unit.children wrapped.children) :
    unqualifiedAll (wrapped.declarations source) = unqualifiedAll (unit.declarations source) ∧
      (Wraps source Harmless true unit.children wrapped.children →
        wrapped.declarations source = unit.declarations source) :=
  ⟨unqualified_of_wraps h [] [], fun hharmless => inScopeAll_of_wraps hharmless [] [] fun _ => rfl⟩

theorem declarations_of_wraps_nested :
    let source := written "namespace N;class C\x7bint x;\x7d"
    let repaired : Node := ⟨.error, none, 12, 27, [classAt 12]⟩
    let region : Node := ⟨.preprocessor, none, 0, 27, [lineAt 0 1, repaired]⟩
    let unit := unitOf [lineAt 0 1, classAt 12]
    Wraps source (fun _ _ _ => True) true unit.children [region] ∧
      Wraps source Harmless true unit.children [region] ∧
      (unit.declarations source).map (·.fullName) = ["N.C"] ∧
      (unitOf [region]).declarations source = unit.declarations source := by
  intro source repaired region unit
  have hwraps : ∀ condition : Bool → List Node → List Node → Prop,
      condition true [lineAt 0 1, classAt 12] [] → condition false [classAt 12] [] →
        Wraps source condition true unit.children [region] := by
    intro condition houter hinner
    have hinner : Wraps source condition false ([classAt 12] ++ []) [repaired] :=
      .container rfl hinner (.item .nil) .nil
    have houter : Wraps source condition true ([lineAt 0 1, classAt 12] ++ []) [region] :=
      .container rfl houter (.item hinner) .nil
    exact houter
  have hharmless : Wraps source Harmless true unit.children [region] :=
    hwraps Harmless (.inr ⟨rfl, nofun⟩) (.inl (by decide))
  have hany := hwraps (fun _ _ _ => True) trivial trivial
  obtain ⟨-, hsame⟩ := @declarations_of_wraps source unit (unitOf [region]) hany
  exact ⟨hany, hharmless, by decide +kernel, hsame hharmless⟩

theorem wraps_opened (source : Array UInt8) (ns : List Node) :
    ∀ fresh, Wraps source (fun _ _ _ => True) fresh (opened ns) ns := by
  induction ns using siblings_induct with
  | below ns ih =>
      intro fresh
      induction ns generalizing fresh with
      | nil =>
          rw [opened]
          exact .nil
      | cons n ns ihns =>
          have hrest := ihns fun m hm => ih m (List.mem_cons_of_mem n hm)
          rw [opened_cons]
          split
          · rename_i hc
            exact .container hc trivial ((ih n List.mem_cons_self).1 true) (hrest fresh)
          · exact .item (hrest _)

/-- A namespace line that a directive wraps is lost where the directive ends. -/
theorem not_qualified_after_directive :
    let text := "#if X\nnamespace N;\n#endif\nclass A \x7b \x7d"
    let source := written text
    let unit := (CSharp.parse text.toList).tree
    Wraps source (fun _ _ _ => True) true (opened unit.children) unit.children ∧
      ((unitOf (opened unit.children)).declarations source).map (·.fullName) = ["N.A"] ∧
      (unit.declarations source).map (·.fullName) = ["A"] := by
  intro text source unit
  exact ⟨wraps_opened source unit.children true, by decide +kernel, by decide +kernel⟩

end Wrapping

end Extraction

end EntityGraph
