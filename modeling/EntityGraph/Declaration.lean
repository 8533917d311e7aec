import EntityGraph.Catalog
import EntityGraph.Text.Split

namespace EntityGraph

inductive DeclarationKind where
  | classType
  | structType
  | interfaceType
  | recordType
  deriving DecidableEq, Repr

inductive TypeSyntax where
  | generic (name : String) (arguments : List String)
  | plain (text : String)
  deriving DecidableEq, Repr

def TypeSyntax.firstArgumentOf (t : TypeSyntax) (name : String) : Option String :=
  match t with
  | .generic n arguments => if n = name then arguments.head? else none
  | .plain _ => none

structure FieldStatement where
  modifiers : String
  typeText : String
  type : TypeSyntax
  names : List String
  start : Nat
  deriving DecidableEq, Repr

structure Invocation where
  member : String
  typeArguments : List String
  deriving DecidableEq, Repr

structure MethodBody where
  invocations : List Invocation
  deriving DecidableEq, Repr

structure Declaration where
  fullName : String
  shortName : String
  kind : DeclarationKind
  baseTypes : NameSet
  fields : List FieldStatement
  nested : List Declaration
  methods : Catalog MethodBody

namespace Declaration

mutual

def count : Declaration → Nat
  | ⟨_, _, _, _, _, nested, _⟩ => 1 + countAll nested

def countAll : List Declaration → Nat
  | [] => 0
  | d :: ds => count d + countAll ds

end

mutual

def preorder : Declaration → List Declaration
  | d@⟨_, _, _, _, _, nested, _⟩ => d :: preorderAll nested

def preorderAll : List Declaration → List Declaration
  | [] => []
  | d :: ds => preorder d ++ preorderAll ds

end

theorem count_eq (d : Declaration) : d.count = 1 + countAll d.nested := by
  cases d; rfl

theorem preorder_eq (d : Declaration) : d.preorder = d :: preorderAll d.nested := by
  cases d; rfl

theorem countAll_append (xs ys : List Declaration) :
    countAll (xs ++ ys) = countAll xs + countAll ys := by
  induction xs with
  | nil => simp [countAll]
  | cons x xs ih => simp [countAll, ih, Nat.add_assoc]

theorem preorderAll_append (xs ys : List Declaration) :
    preorderAll (xs ++ ys) = preorderAll xs ++ preorderAll ys := by
  induction xs with
  | nil => simp [preorderAll]
  | cons x xs ih => simp [preorderAll, ih]

theorem countAll_reverse (ds : List Declaration) : countAll ds.reverse = countAll ds := by
  induction ds with
  | nil => rfl
  | cons d ds ih => simp [countAll_append, countAll, ih, Nat.add_comm]

/-- One step of the walk. The top of the stack is its end; the declaration there gives way to those
nested in it, which are pushed from the last to the first. -/
def Walk.next (stack : List Declaration) : Option (Declaration × List Declaration) :=
  match stack.getLast? with
  | none => none
  | some d => some (d, stack.dropLast ++ d.nested.reverse)

theorem Walk.next_concat (below : List Declaration) (d : Declaration) :
    next (below ++ [d]) = some (d, below ++ d.nested.reverse) := by
  simp [next]

theorem Walk.eq_nil_of_next {stack : List Declaration} (h : next stack = none) : stack = [] := by
  rcases List.eq_nil_or_concat stack with hnil | ⟨below, d, rfl⟩
  · exact hnil
  · simp [next] at h

theorem Walk.exists_below_of_next {stack rest : List Declaration} {d : Declaration}
    (h : next stack = some (d, rest)) :
    ∃ below, stack = below ++ [d] ∧ rest = below ++ d.nested.reverse := by
  rcases List.eq_nil_or_concat stack with rfl | ⟨below, e, rfl⟩
  · cases h
  · rw [List.concat_eq_append, next_concat] at h
    cases h
    exact ⟨below, List.concat_eq_append, rfl⟩

theorem Walk.countAll_of_next {stack rest : List Declaration} {d : Declaration}
    (h : next stack = some (d, rest)) : countAll stack = countAll rest + 1 := by
  obtain ⟨below, rfl, rfl⟩ := exists_below_of_next h
  simp only [countAll_append, countAll_reverse, countAll, count_eq d]
  omega

def Walk.run (stack : List Declaration) : List Declaration :=
  match _h : next stack with
  | none => []
  | some (d, rest) => d :: Walk.run rest
termination_by countAll stack
decreasing_by
  rw [countAll_of_next _h]
  exact Nat.lt_succ_self _

theorem Walk.run_eq_preorderAll (stack : List Declaration) :
    Walk.run stack = preorderAll stack.reverse := by
  fun_induction Walk.run stack with
  | case1 stack h =>
      rw [eq_nil_of_next h]
      rfl
  | case2 stack d rest h ih =>
      obtain ⟨below, rfl, rfl⟩ := exists_below_of_next h
      simp [ih, preorderAll, preorder_eq, preorderAll_append]

def walk (d : Declaration) : List Declaration :=
  Walk.run [d]

theorem walk_eq_preorder (d : Declaration) : d.walk = d.preorder := by
  simp [walk, Walk.run_eq_preorderAll, preorderAll]

theorem flatMap_walk (ds : List Declaration) : ds.flatMap walk = preorderAll ds := by
  induction ds with
  | nil => rfl
  | cons d ds ih => rw [List.flatMap_cons, ih, walk_eq_preorder, preorderAll]

def inner (d : Declaration) : List Declaration :=
  d.walk.drop 1

theorem inner_eq (d : Declaration) : d.inner = preorderAll d.nested := by
  rw [inner, walk_eq_preorder, preorder_eq]
  rfl

def findNested? (d : Declaration) (shortName : String) : Option Declaration :=
  d.inner.find? (·.shortName = shortName)

def findMethod? (d : Declaration) (name : String) : Option MethodBody :=
  d.walk.findSome? (·.methods.find? name)

def allFields (d : Declaration) : List FieldStatement :=
  (d.walk.flatMap (·.fields)).mergeSort (fun a b => a.start ≤ b.start)

end Declaration

structure Property where
  visibility : String
  type : String
  name : String
  deriving DecidableEq, Repr

def FieldStatement.toProperty (f : FieldStatement) : Property :=
  ⟨f.modifiers, f.typeText, Text.join ", " f.names⟩

end EntityGraph
