import EntityGraph.Declaration
import Mathlib.Algebra.Order.Ring.Nat

namespace EntityGraph.Declaration

inductive Walk.Gives : List Declaration → List Declaration → Prop
  | done {stack : List Declaration} (h : next stack = none) : Gives stack []
  | item {stack rest ds : List Declaration} {d : Declaration} (h : next stack = some (d, rest))
      (more : Gives rest ds) : Gives stack (d :: ds)

variable {d e : Declaration} {stack ds : List Declaration}

namespace Walk

theorem gives_run (stack : List Declaration) : Gives stack (run stack) := by
  fun_induction run stack with
  | case1 stack h => exact .done h
  | case2 stack d rest h ih => exact .item h ih

theorem Gives.eq_run (h : Gives stack ds) : ds = run stack := by
  induction h with
  | done h =>
      rw [eq_nil_of_next h, run_eq_preorderAll]
      rfl
  | item h _ ih =>
      obtain ⟨below, rfl, rfl⟩ := exists_below_of_next h
      simp [ih, run_eq_preorderAll, preorderAll, preorder_eq, preorderAll_append]

theorem gives_iff : Gives stack ds ↔ ds = preorderAll stack.reverse := by
  rw [← run_eq_preorderAll]
  constructor
  · exact Gives.eq_run
  · rintro rfl
    exact gives_run stack

theorem length_run (stack : List Declaration) : (run stack).length = countAll stack := by
  fun_induction run stack with
  | case1 stack h =>
      rw [eq_nil_of_next h]
      rfl
  | case2 stack d rest h ih => rw [List.length_cons, ih, countAll_of_next h]

end Walk

theorem length_preorder (d : Declaration) : d.preorder.length = d.count := by
  rw [← walk_eq_preorder, walk, Walk.length_run]
  simp [countAll]

theorem preorder_eq_flatMap (d : Declaration) : d.preorder = d :: d.nested.flatMap preorder := by
  rw [preorder_eq, ← flatMap_walk]
  congr 2
  exact funext walk_eq_preorder

theorem countAll_eq_sum (ds : List Declaration) : countAll ds = (ds.map count).sum := by
  induction ds with
  | nil => rfl
  | cons d ds ih => rw [countAll, ih, List.map_cons, List.sum_cons]

def IsFirst (p : Declaration → Prop) (ds : List Declaration) (e : Declaration) : Prop :=
  ∃ before after, ds = before ++ e :: after ∧ p e ∧ ∀ x ∈ before, ¬p x

theorem findNested?_eq_some_iff {shortName : String} :
    d.findNested? shortName = some e ↔ IsFirst (·.shortName = shortName) d.preorder.tail e := by
  rw [findNested?, inner_eq, preorder_eq, List.tail_cons, List.find?_eq_some_iff_append, IsFirst]
  simp only [decide_eq_true_eq, Bool.not_eq_eq_eq_not, Bool.not_true, decide_eq_false_iff_not]
  constructor
  · rintro ⟨he, before, after, heq, hbefore⟩
    exact ⟨before, after, heq, he, hbefore⟩
  · rintro ⟨before, after, heq, he, hbefore⟩
    exact ⟨he, before, after, heq, hbefore⟩

theorem findNested?_eq_none_iff {shortName : String} :
    d.findNested? shortName = none ↔ ∀ e ∈ d.preorder.tail, e.shortName ≠ shortName := by
  rw [findNested?, inner_eq, preorder_eq, List.tail_cons, List.find?_eq_none]
  simp only [decide_eq_true_eq, ne_eq]

def HasMethod (name : String) (d : Declaration) : Prop := d.methods.contains name = true

theorem not_hasMethod_iff {name : String} :
    ¬d.HasMethod name ↔ d.methods.find? name = none := by
  simp [HasMethod, Catalog.contains]

theorem findMethod?_eq_some_iff {name : String} {body : MethodBody} :
    d.findMethod? name = some body ↔
      ∃ e, IsFirst (HasMethod name) d.preorder e ∧ e.methods.find? name = some body := by
  rw [findMethod?, walk_eq_preorder, List.findSome?_eq_some_iff]
  constructor
  · rintro ⟨before, e, after, heq, hbody, hbefore⟩
    have he : e.HasMethod name := by simp [HasMethod, Catalog.contains, hbody]
    exact ⟨e, ⟨before, after, heq, he, fun x hx => not_hasMethod_iff.mpr (hbefore x hx)⟩, hbody⟩
  · rintro ⟨e, ⟨before, after, heq, -, hbefore⟩, hbody⟩
    exact ⟨before, e, after, heq, hbody, fun x hx => not_hasMethod_iff.mp (hbefore x hx)⟩

theorem findMethod?_eq_none_iff {name : String} :
    d.findMethod? name = none ↔ ∀ e ∈ d.preorder, ¬e.HasMethod name := by
  rw [findMethod?, walk_eq_preorder, List.findSome?_eq_none_iff]
  constructor
  · exact fun h e he => not_hasMethod_iff.mpr (h e he)
  · exact fun h e he => not_hasMethod_iff.mp (h e he)

structure WalksInPreorder (d : Declaration) : Prop where
  gives : ∀ ds, Walk.Gives [d] ds ↔ ds = d.preorder
  walk : d.walk = d.preorder
  preorder : d.preorder = d :: d.nested.flatMap Declaration.preorder
  length : d.preorder.length = d.count
  count : d.count = 1 + (d.nested.map Declaration.count).sum
  nested : ∀ shortName e, d.findNested? shortName = some e ↔
    IsFirst (·.shortName = shortName) d.preorder.tail e
  noNested : ∀ shortName, d.findNested? shortName = none ↔
    ∀ e ∈ d.preorder.tail, e.shortName ≠ shortName
  method : ∀ name body, d.findMethod? name = some body ↔
    ∃ e, IsFirst (HasMethod name) d.preorder e ∧ e.methods.find? name = some body
  noMethod : ∀ name, d.findMethod? name = none ↔ ∀ e ∈ d.preorder, ¬e.HasMethod name

theorem walksInPreorder (d : Declaration) : d.WalksInPreorder where
  gives ds := by
    rw [Walk.gives_iff, List.reverse_singleton, preorderAll, preorderAll, List.append_nil]
  walk := d.walk_eq_preorder
  preorder := d.preorder_eq_flatMap
  length := d.length_preorder
  count := by rw [count_eq, countAll_eq_sum]
  nested _ _ := findNested?_eq_some_iff
  noNested _ := findNested?_eq_none_iff
  method _ _ := findMethod?_eq_some_iff
  noMethod _ := findMethod?_eq_none_iff

end EntityGraph.Declaration
