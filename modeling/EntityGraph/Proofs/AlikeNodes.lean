import EntityGraph.Proofs.DeclaredTypes

namespace EntityGraph

namespace Node

variable (s s' : Array UInt8)

mutual

def alike : Node → Node → Bool
  | n@⟨kind, role, _, _, children⟩, m =>
      kind = m.kind && role = m.role && n.text s = m.text s' && allAlike children m.children

def allAlike : List Node → List Node → Bool
  | [], [] => true
  | n :: ns, m :: ms => alike n m && allAlike ns ms
  | _, _ => false

end

def Alike (n m : Node) : Prop :=
  alike s s' n m = true

end Node

namespace Declaration

def unplacedField (f : FieldStatement) : FieldStatement :=
  { f with start := 0 }

mutual

def unplaced : Declaration → Declaration
  | ⟨fullName, shortName, kind, baseTypes, fields, nested, methods⟩ =>
      ⟨fullName, shortName, kind, baseTypes, fields.map unplacedField, unplacedAll nested, methods⟩

def unplacedAll : List Declaration → List Declaration
  | [] => []
  | d :: ds => unplaced d :: unplacedAll ds

end

theorem unplacedAll_append (ds es : List Declaration) :
    unplacedAll (ds ++ es) = unplacedAll ds ++ unplacedAll es := by
  induction ds with
  | nil => rfl
  | cons d ds ih => rw [List.cons_append, unplacedAll, ih, unplacedAll, List.cons_append]

theorem unplacedAll_toList (d : Option Declaration) :
    unplacedAll d.toList = (d.map unplaced).toList := by
  cases d <;> rfl

end Declaration

section Related

variable {α β γ : Type} {R : α → β → Prop} {l : List α} {m : List β} {a c : Option α}
  {b d : Option β}

theorem map_eq_of_forall₂ {f : α → γ} {g : β → γ} (h : List.Forall₂ R l m)
    (hfg : ∀ x y, R x y → f x = g y) : l.map f = m.map g := by
  induction h with
  | nil => rfl
  | cons hxy _ ih => rw [List.map_cons, List.map_cons, hfg _ _ hxy, ih]

theorem filterMap_eq_of_forall₂ {f : α → Option γ} {g : β → Option γ} (h : List.Forall₂ R l m)
    (hfg : ∀ x y, R x y → f x = g y) : l.filterMap f = m.filterMap g := by
  induction h with
  | nil => rfl
  | cons hxy _ ih => rw [List.filterMap_cons, List.filterMap_cons, hfg _ _ hxy, ih]

theorem forall₂_filter {p : α → Bool} {q : β → Bool} (h : List.Forall₂ R l m)
    (hpq : ∀ x y, R x y → p x = q y) : List.Forall₂ R (l.filter p) (m.filter q) :=
  List.rel_filter (fun x y hxy => iff_of_eq (congrArg (· = true) (hpq x y hxy))) h

theorem rel_find? {p : α → Bool} {q : β → Bool} (h : List.Forall₂ R l m)
    (hpq : ∀ x y, R x y → p x = q y) : Option.Rel R (l.find? p) (m.find? q) := by
  induction h with
  | nil => exact .none
  | @cons x y l m hxy _ ih =>
      rw [List.find?_cons, List.find?_cons, ← hpq x y hxy]
      cases p x with
      | true => exact .some hxy
      | false => exact ih

theorem rel_head? (h : List.Forall₂ R l m) : Option.Rel R l.head? m.head? := by
  cases h with
  | nil => exact .none
  | cons hxy _ => exact .some hxy

theorem rel_getLast? (h : List.Forall₂ R l m) : Option.Rel R l.getLast? m.getLast? := by
  rw [List.getLast?_eq_head?_reverse, List.getLast?_eq_head?_reverse]
  exact rel_head? (List.forall₂_reverse_iff.mpr h)

theorem findIdx?_eq_of_forall₂ {p : α → Bool} {q : β → Bool} (h : List.Forall₂ R l m)
    (hpq : ∀ x y, R x y → p x = q y) : l.findIdx? p = m.findIdx? q := by
  induction h with
  | nil => rfl
  | cons hxy _ ih => rw [List.findIdx?_cons, List.findIdx?_cons, hpq _ _ hxy, ih]

theorem rel_or (h : Option.Rel R a b) (h' : Option.Rel R c d) : Option.Rel R (a.or c) (b.or d) := by
  cases h with
  | none => simpa using h'
  | some hxy => exact .some hxy

theorem map_eq_of_rel {f : α → γ} {g : β → γ} (h : Option.Rel R a b)
    (hfg : ∀ x y, R x y → f x = g y) : a.map f = b.map g := by
  cases h with
  | none => rfl
  | some hxy => rw [Option.map_some, Option.map_some, hfg _ _ hxy]

theorem bind_eq_of_rel {f : α → Option γ} {g : β → Option γ} (h : Option.Rel R a b)
    (hfg : ∀ x y, R x y → f x = g y) : a.bind f = b.bind g := by
  cases h with
  | none => rfl
  | some hxy => rw [Option.bind_some, Option.bind_some, hfg _ _ hxy]

theorem none_or_some_of_rel (h : Option.Rel R a b) :
    (a = none ∧ b = none) ∨ ∃ x y, a = some x ∧ b = some y ∧ R x y := by
  cases h with
  | none => exact .inl ⟨rfl, rfl⟩
  | some hxy => exact .inr ⟨_, _, rfl, rfl, hxy⟩

end Related

namespace Node

variable {s s' : Array UInt8} {n m : Node} {ns ms : List Node}

theorem allAlike_iff : allAlike s s' ns ms = true ↔ List.Forall₂ (Alike s s') ns ms := by
  induction ns generalizing ms with
  | nil => cases ms <;> simp [allAlike]
  | cons n ns ih => cases ms <;> simp [allAlike, Alike, ih]

theorem alike_iff : Alike s s' n m ↔
    n.kind = m.kind ∧ n.role = m.role ∧ n.text s = m.text s' ∧
      List.Forall₂ (Alike s s') n.children m.children := by
  cases n
  simp [Alike, alike, allAlike_iff, and_assoc]

namespace Alike

variable (h : Alike s s' n m)
include h

theorem kind_eq : n.kind = m.kind := (alike_iff.mp h).1

theorem role_eq : n.role = m.role := (alike_iff.mp h).2.1

theorem text_eq : n.text s = m.text s' := (alike_iff.mp h).2.2.1

theorem children : List.Forall₂ (Alike s s') n.children m.children := (alike_iff.mp h).2.2.2

theorem childOfKind? (k : NodeKind) :
    Option.Rel (Alike s s') (n.childOfKind? k) (m.childOfKind? k) :=
  rel_find? h.children fun _ _ hxy => by rw [hxy.kind_eq]

theorem childInRole? (r : NodeRole) :
    Option.Rel (Alike s s') (n.childInRole? r) (m.childInRole? r) :=
  rel_find? h.children fun _ _ hxy => by rw [hxy.role_eq]

theorem nameNode? : Option.Rel (Alike s s') n.nameNode? m.nameNode? :=
  rel_or (h.childInRole? .name) (h.childOfKind? .identifier)

theorem text_nameNode? : n.nameNode?.map (·.text s) = m.nameNode?.map (·.text s') :=
  map_eq_of_rel h.nameNode? fun _ _ hxy => hxy.text_eq

theorem isBodyOf_eq {x y : Node} (hxy : Alike s s' x y) : n.isBodyOf x = m.isBodyOf y := by
  have hbody : (n.childInRole? .body).any (·.kind = .declarationList) =
      (m.childInRole? .body).any (·.kind = .declarationList) := by
    rcases none_or_some_of_rel (h.childInRole? .body) with ⟨hn, hm⟩ | ⟨x, y, hn, hm, hxy⟩
    · rw [hn, hm]
    · rw [hn, hm, Option.any_some, Option.any_some, hxy.kind_eq]
  rw [isBodyOf, isBodyOf, hxy.kind_eq, hxy.role_eq, hbody]

end Alike

end Node

namespace Extraction

open Node

variable {s s' : Array UInt8} {n m : Node} {ns ms : List Node}

def calledMember? (n : Node) : Option Node :=
  match n.kind with
  | .memberAccess => memberNode? n
  | .genericName | .identifier => some n
  | _ => none

def invocation? (source : Array UInt8) (n : Node) : Option Invocation :=
  match n.kind with
  | .genericName => (genericParts? source n).map fun p => ⟨p.1, p.2⟩
  | .identifier => some ⟨n.text source, []⟩
  | _ => none

theorem target?_eq (source : Array UInt8) (n : Node) :
    target? source n = ((calledNode? n).bind calledMember?).bind (invocation? source) := by
  unfold target?
  cases calledNode? n with
  | none => rfl
  | some f =>
      simp only [Option.bind_eq_bind, Option.bind_some, calledMember?]
      cases hkind : f.kind with
      | genericName => simp only [Option.bind_some, invocation?, hkind]
      | identifier => simp only [Option.bind_some, invocation?, hkind]
      | _ => rfl

section Parts

variable (h : Alike s s' n m)
include h

theorem segments_congr : segments s n = segments s' m := by
  have hname : Option.Rel (Alike s s') (namespaceName? n) (namespaceName? m) :=
    rel_or (h.childInRole? .name)
      (rel_find? h.children fun _ _ hxy => by rw [hxy.kind_eq])
  unfold segments
  rcases none_or_some_of_rel hname with ⟨hn, hm⟩ | ⟨x, y, hn, hm, hxy⟩
  · rw [hn, hm]
  · simp only [hn, hm, hxy.text_eq]

theorem modifiers_congr : modifiers s n = modifiers s' m :=
  map_eq_of_forall₂ (forall₂_filter h.children fun _ _ hxy => by rw [hxy.kind_eq])
    fun _ _ hxy => hxy.text_eq

theorem baseTypes_congr : baseTypes s n = baseTypes s' m := by
  unfold baseTypes
  rcases none_or_some_of_rel (h.childOfKind? .baseList) with ⟨hn, hm⟩ | ⟨x, y, hn, hm, hxy⟩
  · rw [hn, hm]
  · simp only [hn, hm]
    rw [map_eq_of_forall₂ (forall₂_filter hxy.children fun _ _ hxy => by rw [hxy.kind_eq])
      fun _ _ hxy => hxy.text_eq]

theorem typeArguments_congr : typeArguments s n = typeArguments s' m := by
  unfold typeArguments
  rcases none_or_some_of_rel (h.childOfKind? .typeArgumentList) with ⟨hn, hm⟩ | ⟨x, y, hn, hm, hxy⟩
  · rw [hn, hm]
  · simp only [hn, hm]
    exact map_eq_of_forall₂ (forall₂_filter hxy.children fun _ _ hxy => by rw [hxy.kind_eq])
      fun _ _ hxy => hxy.text_eq

theorem genericParts?_congr : genericParts? s n = genericParts? s' m := by
  rw [genericParts?, genericParts?, h.kind_eq, typeArguments_congr h]
  split
  · exact map_eq_of_rel h.nameNode? fun _ _ hxy => by rw [hxy.text_eq]
  · rfl

theorem typeSyntax_congr : typeSyntax s n = typeSyntax s' m := by
  rw [typeSyntax, typeSyntax, genericParts?_congr h, h.text_eq]

theorem variableNames_congr : variableNames s n = variableNames s' m :=
  filterMap_eq_of_forall₂ (forall₂_filter h.children fun _ _ hxy => by rw [hxy.kind_eq])
    fun _ _ hxy => hxy.text_nameNode?

theorem rel_declaredType? : Option.Rel (Alike s s') (declaredType? n) (declaredType? m) :=
  rel_or (h.childInRole? .type) (rel_find? h.children fun _ _ hxy => by rw [hxy.kind_eq])

theorem field?_congr :
    (field? s n).map Declaration.unplacedField = (field? s' m).map Declaration.unplacedField := by
  rw [field?, field?, Option.map_map, Option.map_map, modifiers_congr h]
  refine map_eq_of_rel (h.childOfKind? .variableDeclaration) fun x y hxy => ?_
  rcases none_or_some_of_rel (rel_declaredType? hxy) with ⟨hx, hy⟩ | ⟨t, u, hx, hy, htu⟩
  · simp only [Function.comp_apply, hx, hy, variableNames_congr hxy, Declaration.unplacedField]
  · simp only [Function.comp_apply, hx, hy, variableNames_congr hxy, typeSyntax_congr htu,
      htu.text_eq, Declaration.unplacedField]

theorem rel_calledNode? : Option.Rel (Alike s s') (calledNode? n) (calledNode? m) :=
  rel_or (h.childInRole? .function) (rel_head? h.children)

theorem rel_memberNode? : Option.Rel (Alike s s') (memberNode? n) (memberNode? m) :=
  rel_or (h.childInRole? .name)
    (rel_getLast? (forall₂_filter h.children fun _ _ hxy => by rw [hxy.kind_eq]))

theorem rel_calledMember? : Option.Rel (Alike s s') (calledMember? n) (calledMember? m) := by
  rw [calledMember?, calledMember?, h.kind_eq]
  split
  · exact rel_memberNode? h
  · exact .some h
  · exact .some h
  · exact .none

theorem invocation?_congr : invocation? s n = invocation? s' m := by
  rw [invocation?, invocation?, h.kind_eq, genericParts?_congr h, h.text_eq]

theorem target?_congr : target? s n = target? s' m := by
  rw [target?_eq, target?_eq, Option.bind_assoc, Option.bind_assoc]
  exact bind_eq_of_rel (rel_calledNode? h) fun _ _ hxy =>
    bind_eq_of_rel (rel_calledMember? hxy) fun _ _ hmember => invocation?_congr hmember

theorem declared?_congr : declared? s n = declared? s' m := by
  rw [declared?, declared?, h.kind_eq, h.text_nameNode?]

end Parts

section Calls

theorem calls_eq (source : Array UInt8) (n : Node) :
    calls source n =
      (if n.kind = .invocation then (target? source n).toList else []) ++
        callsAll source n.children := by
  cases n
  rw [calls]

theorem callsAll_congr (h : List.Forall₂ (Alike s s') ns ms) : callsAll s ns = callsAll s' ms := by
  induction ns using siblings_induct generalizing ms with
  | below ns ih =>
      induction h with
      | nil => rfl
      | @cons n m ns ms hnm hns ihns =>
          have hbelow := (ih n List.mem_cons_self).1 hnm.children
          have hrest := ihns fun x hx => ih x (List.mem_cons_of_mem n hx)
          rw [callsAll, callsAll, calls_eq, calls_eq, hnm.kind_eq, target?_congr hnm, hbelow, hrest]

theorem rel_methodNameNode? (h : Alike s s' n m) :
    Option.Rel (Alike s s') (methodNameNode? n) (methodNameNode? m) := by
  refine rel_or (h.childInRole? .name) ?_
  have hindex : n.children.findIdx? (·.kind = .parameterList) =
      m.children.findIdx? (·.kind = .parameterList) :=
    findIdx?_eq_of_forall₂ h.children fun _ _ hxy => by rw [hxy.kind_eq]
  rw [hindex]
  cases m.children.findIdx? (·.kind = .parameterList) with
  | none => exact .none
  | some i =>
      exact rel_getLast? (forall₂_filter (List.forall₂_take i h.children)
        fun _ _ hxy => by rw [hxy.kind_eq])

theorem method?_congr (h : Alike s s' n m) : method? s n = method? s' m := by
  have hcalls : calls s n = calls s' m := by
    rw [calls_eq, calls_eq, h.kind_eq, target?_congr h, callsAll_congr h.children]
  rw [method?, method?, hcalls]
  exact map_eq_of_rel (rel_methodNameNode? h) fun _ _ hxy => by rw [hxy.text_eq]

end Calls

section Members

def Members.unplaced (m : Members) : Members :=
  ⟨m.fields.map Declaration.unplacedField, Declaration.unplacedAll m.nested, m.methods⟩

theorem Members.unplaced_append (a b : Members) :
    (a.append b).unplaced = a.unplaced.append b.unplaced := by
  simp only [Members.append, Members.unplaced, List.map_append, Declaration.unplacedAll_append]

def memberAt (source : Array UInt8) (qualified : List String) (n : Node) : Members :=
  if n.kind = .fieldDeclaration then ⟨(field? source n).toList, [], []⟩
  else if n.kind = .methodDeclaration then ⟨[], [], (method? source n).toList⟩
  else if n.kind.isTransparent then members source qualified n.children
  else
    match declared? source n with
    | none => .empty
    | some (kind, name) =>
        ⟨[], [assemble source n kind (qualified ++ [name]) name
          (bodyMembers source (qualified ++ [name]) n.isBodyOf n.children)], []⟩

theorem members_cons (source : Array UInt8) (qualified : List String) (n : Node) (ns : List Node) :
    members source qualified (n :: ns) =
      (memberAt source qualified n).append (members source qualified ns) := by
  cases n
  rw [members]
  rfl

theorem unplaced_assemble {mine yours : Members} {kind : DeclarationKind} {q : List String}
    {name : String} (h : Alike s s' n m) (hmembers : mine.unplaced = yours.unplaced) :
    (assemble s n kind q name mine).unplaced = (assemble s' m kind q name yours).unplaced := by
  obtain ⟨fields, nested, methods⟩ := mine
  obtain ⟨fields', nested', methods'⟩ := yours
  simp only [Members.unplaced, Members.mk.injEq] at hmembers
  obtain ⟨hfields, hnested, hmethods⟩ := hmembers
  simp only [assemble, Declaration.unplaced, baseTypes_congr h, hfields, hnested, hmethods]

theorem bodyMembers_congr {isBody isBody' : Node → Bool} {q : List String}
    (h : List.Forall₂ (Alike s s') ns ms)
    (hbody : ∀ x y, Alike s s' x y → isBody x = isBody' y)
    (hbelow : ∀ x ∈ ns, ∀ y, Alike s s' x y →
      (members s q x.children).unplaced = (members s' q y.children).unplaced) :
    (bodyMembers s q isBody ns).unplaced = (bodyMembers s' q isBody' ms).unplaced := by
  induction h with
  | nil => rw [bodyMembers, bodyMembers]
  | @cons n m ns ms hnm _ ih =>
      rw [bodyMembers_cons, bodyMembers_cons, hbody n m hnm]
      split
      · exact hbelow n List.mem_cons_self m hnm
      · exact ih fun x hx => hbelow x (List.mem_cons_of_mem n hx)

theorem memberAt_congr {q : List String} (h : Alike s s' n m)
    (hchildren : (members s q n.children).unplaced = (members s' q m.children).unplaced)
    (hbodies : ∀ q, ∀ x ∈ n.children, ∀ y, Alike s s' x y →
      (members s q x.children).unplaced = (members s' q y.children).unplaced) :
    (memberAt s q n).unplaced = (memberAt s' q m).unplaced := by
  rw [memberAt, memberAt, h.kind_eq, declared?_congr h, method?_congr h]
  split
  · simp only [Members.unplaced, ← Option.toList_map, field?_congr h]
  · split
    · rfl
    · split
      · exact hchildren
      · cases declared? s' m with
        | none => rfl
        | some p =>
            have hbody := bodyMembers_congr (q := q ++ [p.2]) h.children (fun _ _ => h.isBodyOf_eq)
              (hbodies _)
            simp only [Members.unplaced, Declaration.unplacedAll, unplaced_assemble h hbody]

theorem members_congr (h : List.Forall₂ (Alike s s') ns ms) (q : List String) :
    (members s q ns).unplaced = (members s' q ms).unplaced := by
  induction ns using siblings_induct generalizing ms q with
  | below ns ih =>
      induction h with
      | nil => rw [members, members]
      | @cons n m ns ms hnm _ ihns =>
          obtain ⟨hchildren, hbodies⟩ := ih n List.mem_cons_self
          have hhere := memberAt_congr (q := q) hnm (hchildren hnm.children q)
            fun q x hx y hxy => hbodies x hx hxy.children q
          have hrest := ihns fun x hx => ih x (List.mem_cons_of_mem n hx)
          rw [members_cons, members_cons, Members.unplaced_append, Members.unplaced_append, hhere,
            hrest]

end Members

section Scope

open Declaration

variable {outer scope : List String}

theorem declaration?_congr (h : Alike s s' n m) (scope : List String) :
    (declaration? s scope n).map Declaration.unplaced =
      (declaration? s' scope m).map Declaration.unplaced := by
  rw [declaration?, declaration?, Option.map_map, Option.map_map, declared?_congr h]
  refine Option.map_congr fun p _ => ?_
  have hbody := bodyMembers_congr (q := scope ++ [p.2]) h.children (fun _ _ => h.isBodyOf_eq)
    fun _ _ _ hxy => members_congr hxy.children _
  exact unplaced_assemble h hbody

theorem scopeAfter_congr (h : Alike s s' n m) :
    scopeAfter s outer scope n = scopeAfter s' outer scope m := by
  rw [scopeAfter, scopeAfter, h.kind_eq, segments_congr h]

theorem inBody_congr {isBody isBody' : Node → Bool} (h : List.Forall₂ (Alike s s') ns ms)
    (hbody : ∀ x y, Alike s s' x y → isBody x = isBody' y)
    (hbelow : ∀ x ∈ ns, ∀ y, Alike s s' x y →
      unplacedAll (inScopeAll s scope scope x.children) =
        unplacedAll (inScopeAll s' scope scope y.children)) :
    unplacedAll (inBody s scope isBody ns) = unplacedAll (inBody s' scope isBody' ms) := by
  induction h with
  | nil => rw [inBody, inBody]
  | @cons n m ns ms hnm _ ih =>
      rw [inBody_cons, inBody_cons, hbody n m hnm]
      split
      · exact hbelow n List.mem_cons_self m hnm
      · exact ih fun x hx => hbelow x (List.mem_cons_of_mem n hx)

theorem inScope_congr (h : Alike s s' n m)
    (hchildren : ∀ scope, unplacedAll (inScopeAll s scope scope n.children) =
      unplacedAll (inScopeAll s' scope scope m.children))
    (hbodies : ∀ scope, ∀ x ∈ n.children, ∀ y, Alike s s' x y →
      unplacedAll (inScopeAll s scope scope x.children) =
        unplacedAll (inScopeAll s' scope scope y.children)) :
    unplacedAll (inScope s outer scope n) = unplacedAll (inScope s' outer scope m) := by
  rw [inScope_eq, inScope_eq, h.kind_eq, segments_congr h]
  split
  · exact inBody_congr h.children (fun _ _ => h.isBodyOf_eq) (hbodies _)
  · split
    · exact hchildren _
    · split
      · rw [unplacedAll_toList, unplacedAll_toList, declaration?_congr h]
      · split
        · exact hchildren scope
        · rfl

theorem inScopeAll_congr (h : List.Forall₂ (Alike s s') ns ms) (outer scope : List String) :
    unplacedAll (inScopeAll s outer scope ns) = unplacedAll (inScopeAll s' outer scope ms) := by
  induction ns using siblings_induct generalizing ms outer scope with
  | below ns ih =>
      induction h generalizing scope with
      | nil => rw [inScopeAll, inScopeAll]
      | @cons n m ns ms hnm _ ihns =>
          obtain ⟨hchildren, hbodies⟩ := ih n List.mem_cons_self
          have hhere : unplacedAll (inScope s outer scope n) =
              unplacedAll (inScope s' outer scope m) :=
            inScope_congr hnm (fun scope => hchildren hnm.children scope scope)
              fun scope x hx y hxy => hbodies x hx hxy.children scope scope
          have hrest := ihns (fun x hx => ih x (List.mem_cons_of_mem n hx))
            (scopeAfter s outer scope n)
          rw [inScopeAll, inScopeAll, unplacedAll_append, unplacedAll_append, hhere, hrest,
            scopeAfter_congr hnm]

end Scope

end Extraction

end EntityGraph
