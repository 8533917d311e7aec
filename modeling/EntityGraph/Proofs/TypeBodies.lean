import EntityGraph.CSharp
import EntityGraph.Proofs.NamespaceForms

namespace EntityGraph

/-- The second list has what the relation gives for the members of the first, in their order. -/
inductive Collects {α β : Type} (R : α → β → Prop) : List α → List β → Prop
  | nil : Collects R [] []
  | take {x y xs ys} (hxy : R x y) (h : Collects R xs ys) : Collects R (x :: xs) (y :: ys)
  | skip {x xs ys} (hx : ∀ y, ¬R x y) (h : Collects R xs ys) : Collects R (x :: xs) ys

theorem collects_iff {α β : Type} {R : α → β → Prop} {f : α → Option β}
    (hf : ∀ x y, f x = some y ↔ R x y) {xs : List α} {ys : List β} :
    Collects R xs ys ↔ ys = xs.filterMap f := by
  constructor
  · intro h
    induction h with
    | nil => rfl
    | take hxy _ ih => rw [List.filterMap_cons_some ((hf _ _).mpr hxy), ih]
    | @skip x xs ys hx _ ih =>
        have hnone : f x = none :=
          Option.eq_none_iff_forall_not_mem.mpr fun y hy => hx y ((hf x y).mp hy)
        rw [List.filterMap_cons_none hnone, ih]
  · rintro rfl
    induction xs with
    | nil => exact .nil
    | cons x xs ih =>
        cases hx : f x with
        | none =>
            rw [List.filterMap_cons_none hx]
            exact .skip (fun y hxy => by rw [(hf x y).mpr hxy] at hx; cases hx) ih
        | some y =>
            rw [List.filterMap_cons_some hx]
            exact .take ((hf x y).mp hx) ih

namespace Node

mutual

def preorder : Node → List Node
  | n@⟨_, _, _, _, children⟩ => n :: preorderAll children

def preorderAll : List Node → List Node
  | [] => []
  | n :: ns => preorder n ++ preorderAll ns

end

def descendants (n : Node) : List Node :=
  preorderAll n.children

mutual

def openedAt : Node → List Node
  | n@⟨kind, _, _, _, children⟩ => if kind.isTransparent then opened children else [n]

def opened : List Node → List Node
  | [] => []
  | n :: ns => openedAt n ++ opened ns

end

def bodyNode? (n : Node) : Option Node :=
  ((n.childInRole? .body).filter (·.kind = .declarationList)).or (n.childOfKind? .declarationList)

def items (n : Node) : List Node :=
  (n.bodyNode?.map (·.children)).getD []

theorem preorder_eq (n : Node) : n.preorder = n :: n.descendants := by
  cases n
  rfl

theorem opened_cons (n : Node) (ns : List Node) :
    opened (n :: ns) =
      (if n.kind.isTransparent then opened n.children else [n]) ++ opened ns := by
  cases n
  rw [opened, openedAt]

theorem mem_preorderAll {x : Node} {ns : List Node} :
    x ∈ preorderAll ns ↔ ∃ n ∈ ns, x = n ∨ x ∈ n.descendants := by
  induction ns with
  | nil => simp [preorderAll]
  | cons n ns ih => simp [preorderAll, preorder_eq, ih, or_assoc]

theorem mem_preorderAll_of_mem_opened {x : Node} (ns : List Node) (h : x ∈ opened ns) :
    x ∈ preorderAll ns := by
  induction ns using Extraction.siblings_induct with
  | below ns ih =>
      induction ns with
      | nil => rw [opened] at h; cases h
      | cons n ns ihns =>
          rw [opened_cons] at h
          rw [preorderAll, preorder_eq]
          rcases List.mem_append.mp h with h | h
          · refine List.mem_append_left _ ?_
            split at h
            · exact List.mem_cons_of_mem n ((ih n List.mem_cons_self).1 h)
            · obtain rfl := List.mem_singleton.mp h
              exact List.mem_cons_self
          · exact List.mem_append_right _ (ihns (fun m hm => ih m (List.mem_cons_of_mem n hm)) h)

theorem sizeOf_lt_of_mem_preorderAll {x : Node} (ns : List Node) (h : x ∈ preorderAll ns) :
    sizeOf x < sizeOf ns := by
  induction ns using Extraction.siblings_induct with
  | below ns ih =>
      obtain ⟨n, hn, h⟩ := mem_preorderAll.mp h
      have hsize : sizeOf n < sizeOf ns := List.sizeOf_lt_of_mem hn
      rcases h with rfl | h
      · exact hsize
      · have hx := (ih n hn).1 h
        have hchildren := sizeOf_children_lt n
        omega

@[elab_as_elim]
theorem descendants_induct {motive : Node → Prop}
    (node : ∀ n, (∀ m ∈ n.descendants, motive m) → motive n) (n : Node) : motive n := by
  refine node n fun m hm => ?_
  have hsize : sizeOf m < sizeOf n :=
    Nat.lt_trans (sizeOf_lt_of_mem_preorderAll n.children hm) (sizeOf_children_lt n)
  exact descendants_induct node m
termination_by sizeOf n

theorem find?_and_eq_some {α : Type} {p q : α → Bool} {l : List α} {x : α}
    (h : l.find? p = some x) (hx : q x = true) : l.find? (fun y => q y && p y) = some x := by
  obtain ⟨hp, before, after, rfl, hbefore⟩ := List.find?_eq_some_iff_append.mp h
  refine List.find?_eq_some_iff_append.mpr ⟨by rw [hx, hp]; rfl, before, after, rfl, ?_⟩
  intro y hy
  have hpy := hbefore y hy
  rw [Bool.not_eq_true'] at hpy
  simp [hpy]

theorem find?_isBodyOf (n : Node) : n.children.find? n.isBodyOf = n.bodyNode? := by
  cases hrole : n.childInRole? .body with
  | none =>
      have hisBody : n.isBodyOf = fun c => decide (c.kind = .declarationList) := by
        funext c
        simp [isBodyOf, hrole]
      rw [hisBody, bodyNode?, hrole]
      rfl
  | some b =>
      by_cases hkind : b.kind = .declarationList
      · have hisBody : n.isBodyOf = fun c => c.kind = .declarationList && c.role = some .body := by
          funext c
          simp [isBodyOf, hrole, hkind]
        rw [hisBody, find?_and_eq_some hrole (by simp [hkind]), bodyNode?, hrole,
          Option.filter_some, if_pos (decide_eq_true hkind), Option.some_or]
      · have hisBody : n.isBodyOf = fun c => decide (c.kind = .declarationList) := by
          funext c
          simp [isBodyOf, hrole, hkind]
        rw [hisBody, bodyNode?, hrole, Option.filter_some, if_neg (by simpa using hkind),
          Option.none_or]
        rfl

theorem exists_body_of_mem_items {n c : Node} (h : c ∈ n.items) :
    ∃ b ∈ n.children, n.items = b.children := by
  unfold items at h ⊢
  rw [← find?_isBodyOf] at h ⊢
  cases hbody : n.children.find? n.isBodyOf with
  | none => rw [hbody] at h; cases h
  | some b => exact ⟨b, List.mem_of_find?_eq_some hbody, rfl⟩

theorem mem_descendants_of_mem_items {n c : Node} (h : c ∈ opened n.items) :
    c ∈ n.descendants := by
  obtain ⟨m, hm, hc⟩ := mem_preorderAll.mp (mem_preorderAll_of_mem_opened _ h)
  obtain ⟨b, hb, hitems⟩ := exists_body_of_mem_items hm
  refine mem_preorderAll.mpr ⟨b, hb, .inr ?_⟩
  rw [hitems] at hm
  exact mem_preorderAll.mpr ⟨m, hm, hc⟩

end Node

namespace Extraction

open Node

variable {source : Array UInt8} {above q : List String} {n c : Node} {ns : List Node}

structure IsNamedType (source : Array UInt8) (n : Node) : Prop where
  kind : n.kind.declarationKind?.isSome
  named : ∃ name, n.nameNode?.map (·.text source) = some name ∧ name ≠ ""

structure IsField (source : Array UInt8) (c : Node) (f : FieldStatement) : Prop where
  kind : c.kind = .fieldDeclaration
  start : f.start = c.start
  modifiers : f.modifiers = " ".intercalate (modifiers source c)
  declared : ∃ v, c.childOfKind? .variableDeclaration = some v ∧
    f.names = variableNames source v ∧
      (f.typeText, f.type) =
        match declaredType? v with
        | some t => (t.text source, typeSyntax source t)
        | none => ("", .plain "")

def IsMethod (source : Array UInt8) (name : String) (c : Node) : Prop :=
  c.kind = .methodDeclaration ∧ (methodNameNode? c).map (·.text source) = some name

inductive Names (source : Array UInt8) (n : Node) : Invocation → Prop
  | identifier (hkind : n.kind = .identifier) : Names source n ⟨n.text source, []⟩
  | generic {name} (hkind : n.kind = .genericName) (hname : n.nameNode? = some name) :
      Names source n ⟨name.text source, typeArguments source n⟩

inductive IsCall (source : Array UInt8) (c : Node) (i : Invocation) : Prop
  | plain {f} (hkind : c.kind = .invocation) (hf : calledNode? c = some f)
      (h : Names source f i) : IsCall source c i
  | member {f m} (hkind : c.kind = .invocation) (hf : calledNode? c = some f)
      (haccess : f.kind = .memberAccess) (hm : memberNode? f = some m)
      (h : Names source m i) : IsCall source c i

/-- A type as it is read from the body of its node, `inner` being its name and those around it. -/
structure ReadsBody (source : Array UInt8) (n : Node) (inner : List String) (d : Declaration) :
    Prop where
  fields : Collects (IsField source) (opened n.items) d.fields
  nested : Collects (fun c e => IsNamedType source c ∧ declaration? source inner c = some e)
    (opened n.items) d.nested
  methods : ∀ name body, d.methods.find? name = some body ↔
    ∃ before m after, opened n.items = before ++ m :: after ∧ IsMethod source name m ∧
      (∀ c ∈ before, ¬IsMethod source name c) ∧
        Collects (IsCall source) m.descendants body.invocations

section Calls

def call? (source : Array UInt8) (c : Node) : Option Invocation :=
  if c.kind = .invocation then target? source c else none

theorem invocation?_eq_some_iff {i : Invocation} :
    invocation? source n = some i ↔ Names source n i := by
  constructor
  · intro h
    unfold invocation? at h
    split at h
    · rename_i hkind
      rw [genericParts?, if_pos hkind, Option.map_map] at h
      obtain ⟨name, hname, rfl⟩ := Option.map_eq_some_iff.mp h
      exact .generic hkind hname
    · rename_i hkind
      cases h
      exact .identifier hkind
    · cases h
  · rintro (hkind | ⟨hkind, hname⟩)
    · simp only [invocation?, hkind]
    · simp only [invocation?, genericParts?, hkind, hname, if_true, Option.map_some]

theorem calledMember?_eq_some_iff {m : Node} {i : Invocation} :
    calledMember? n = some m ∧ Names source m i ↔
      (n = m ∧ Names source m i) ∨
        (n.kind = .memberAccess ∧ memberNode? n = some m ∧ Names source m i) := by
  constructor
  · rintro ⟨hm, hi⟩
    unfold calledMember? at hm
    split at hm
    · rename_i hkind
      exact .inr ⟨hkind, hm, hi⟩
    · cases hm
      exact .inl ⟨rfl, hi⟩
    · cases hm
      exact .inl ⟨rfl, hi⟩
    · cases hm
  · rintro (⟨rfl, hi⟩ | ⟨hkind, hm, hi⟩)
    · refine ⟨?_, hi⟩
      cases hi with
      | identifier hkind => simp only [calledMember?, hkind]
      | generic hkind _ => simp only [calledMember?, hkind]
    · exact ⟨by simp only [calledMember?, hkind, hm], hi⟩

theorem call?_eq_some_iff (c : Node) (i : Invocation) :
    call? source c = some i ↔ IsCall source c i := by
  constructor
  · intro h
    unfold call? at h
    split at h
    · rename_i hkind
      rw [target?_eq, Option.bind_assoc] at h
      obtain ⟨f, hf, h⟩ := Option.bind_eq_some_iff.mp h
      obtain ⟨m, hm, h⟩ := Option.bind_eq_some_iff.mp h
      rcases calledMember?_eq_some_iff.mp ⟨hm, invocation?_eq_some_iff.mp h⟩ with
        ⟨rfl, hi⟩ | ⟨haccess, hm, hi⟩
      · exact .plain hkind hf hi
      · exact .member hkind hf haccess hm hi
    · cases h
  · intro h
    have hcall : ∀ f m, c.kind = .invocation → calledNode? c = some f →
        calledMember? f = some m → Names source m i → call? source c = some i := by
      intro f m hkind hf hm hi
      rw [call?, if_pos hkind, target?_eq, hf, Option.bind_some, hm, Option.bind_some]
      exact invocation?_eq_some_iff.mpr hi
    cases h with
    | plain hkind hf hi =>
        exact hcall _ _ hkind hf (calledMember?_eq_some_iff.mpr (.inl ⟨rfl, hi⟩)).1 hi
    | member hkind hf haccess hm hi =>
        exact hcall _ _ hkind hf (calledMember?_eq_some_iff.mpr (.inr ⟨haccess, hm, hi⟩)).1 hi

theorem callsAll_eq (ns : List Node) :
    callsAll source ns = (preorderAll ns).filterMap (call? source) := by
  induction ns using siblings_induct with
  | below ns ih =>
      induction ns with
      | nil => rw [callsAll, preorderAll, List.filterMap_nil]
      | cons n ns ihns =>
          have hchildren := (ih n List.mem_cons_self).1
          have hrest := ihns fun m hm => ih m (List.mem_cons_of_mem n hm)
          have hhere : (if n.kind = .invocation then (target? source n).toList else []) =
              (call? source n).toList := by
            rw [call?]
            split <;> rfl
          rw [callsAll, calls_eq, hhere, hchildren, hrest, preorderAll, preorder_eq,
            List.cons_append, List.filterMap_cons, List.filterMap_append, descendants]
          cases call? source n <;> rfl

theorem calls_of_method (h : n.kind = .methodDeclaration) :
    calls source n = n.descendants.filterMap (call? source) := by
  rw [calls_eq, if_neg (by rw [h]; decide), List.nil_append, callsAll_eq, descendants]

end Calls

section Members

def fieldAt? (source : Array UInt8) (c : Node) : Option FieldStatement :=
  if c.kind = .fieldDeclaration then field? source c else none

def methodAt? (source : Array UInt8) (c : Node) : Option (String × MethodBody) :=
  if c.kind = .methodDeclaration then method? source c else none

theorem filterMap_singleton {α β : Type} (f : α → Option β) (x : α) :
    [x].filterMap f = (f x).toList := by
  rw [List.filterMap_cons]
  cases f x <;> rfl

theorem memberAt_of_opaque (h : ¬n.kind.isTransparent = true) :
    memberAt source q n =
      ⟨(fieldAt? source n).toList, (declaration? source q n).toList,
        (methodAt? source n).toList⟩ := by
  unfold memberAt fieldAt? methodAt? declaration?
  by_cases hfield : n.kind = .fieldDeclaration
  · simp [hfield, @declared?_eq_none_of_kind source n (by rw [hfield]; rfl)]
  · by_cases hmethod : n.kind = .methodDeclaration
    · simp [hmethod, @declared?_eq_none_of_kind source n (by rw [hmethod]; rfl)]
    · rw [if_neg hfield, if_neg hmethod, if_neg h, if_neg hfield, if_neg hmethod]
      cases declared? source n <;> rfl

theorem members_eq (ns : List Node) :
    ∀ q, members source q ns =
      ⟨(opened ns).filterMap (fieldAt? source), (opened ns).filterMap (declaration? source q),
        (opened ns).filterMap (methodAt? source)⟩ := by
  induction ns using siblings_induct with
  | below ns ih =>
      intro q
      induction ns with
      | nil => rw [members, opened]; rfl
      | cons n ns ihns =>
          have hrest := ihns fun m hm => ih m (List.mem_cons_of_mem n hm)
          rw [members_cons, hrest, opened_cons]
          by_cases h : n.kind.isTransparent = true
          · have hhere : memberAt source q n = members source q n.children := by
              rw [memberAt, if_neg, if_neg, if_pos h]
              · intro hkind; rw [hkind] at h; cases h
              · intro hkind; rw [hkind] at h; cases h
            rw [if_pos h, hhere, (ih n List.mem_cons_self).1 q]
            simp only [Members.append, List.filterMap_append]
          · rw [if_neg h, memberAt_of_opaque h]
            simp only [Members.append, List.filterMap_append, filterMap_singleton]

theorem bodyMembers_eq (isBody : Node → Bool) (ns : List Node) :
    bodyMembers source q isBody ns =
      members source q (((ns.find? isBody).map (·.children)).getD []) := by
  induction ns with
  | nil => rw [bodyMembers, List.find?_nil, Option.map_none, Option.getD_none, members]
  | cons n ns ih =>
      rw [bodyMembers_cons, List.find?_cons]
      cases isBody n with
      | true => rfl
      | false => exact ih

theorem declaration?_eq (above : List String) (n : Node) :
    declaration? source above n = (declared? source n).map fun p =>
      assemble source n p.1 (above ++ [p.2]) p.2 (members source (above ++ [p.2]) n.items) := by
  unfold declaration?
  congr 1
  funext p
  obtain ⟨kind, name⟩ := p
  simp only [bodyMembers_eq, find?_isBodyOf, items]

theorem isNamedType_iff : IsNamedType source n ↔ (declared? source n).isSome := by
  constructor
  · rintro ⟨hkind, name, hname, hne⟩
    obtain ⟨kind, hkind⟩ := Option.isSome_iff_exists.mp hkind
    rw [declared?_eq_some_iff.mpr ⟨hkind, hname, hne⟩]
    rfl
  · intro h
    obtain ⟨⟨kind, name⟩, hp⟩ := Option.isSome_iff_exists.mp h
    obtain ⟨hkind, hname, hne⟩ := declared?_eq_some_iff.mp hp
    exact ⟨by rw [hkind]; rfl, name, hname, hne⟩

theorem fieldAt?_eq_some_iff (c : Node) (f : FieldStatement) :
    fieldAt? source c = some f ↔ IsField source c f := by
  unfold fieldAt?
  split
  · rename_i hkind
    rw [field?, Option.map_eq_some_iff]
    constructor
    · rintro ⟨v, hv, rfl⟩
      refine ⟨hkind, ?_, ?_, v, hv, ?_, ?_⟩
      all_goals cases declaredType? v <;> simp [Text.join_eq_intercalate]
    · rintro ⟨-, hstart, hmodifiers, v, hv, hnames, htype⟩
      refine ⟨v, hv, ?_⟩
      obtain ⟨modifiers, typeText, type, names, start⟩ := f
      simp only at hstart hmodifiers hnames htype
      rw [hstart, hmodifiers, hnames, ← Text.join_eq_intercalate]
      cases hdeclared : declaredType? v with
      | none =>
          rw [hdeclared] at htype
          obtain ⟨rfl, rfl⟩ := Prod.mk.inj htype
          rfl
      | some t =>
          rw [hdeclared] at htype
          obtain ⟨rfl, rfl⟩ := Prod.mk.inj htype
          rfl
  · rename_i hkind
    constructor
    · intro h
      cases h
    · intro h
      exact absurd h.kind hkind

theorem declaration?_isSome_iff (above : List String) (n : Node) :
    (declaration? source above n).isSome ↔ IsNamedType source n := by
  rw [isNamedType_iff, declaration?, Option.isSome_map]

theorem collects_nested (q : List String) (ns : List Node) :
    Collects (fun c e => IsNamedType source c ∧ declaration? source q c = some e) ns
      (ns.filterMap (declaration? source q)) := by
  refine (collects_iff fun c e => ?_).mpr rfl
  refine ⟨fun h => ⟨?_, h⟩, And.right⟩
  rw [← declaration?_isSome_iff q, h]
  rfl

instance (name : String) : DecidablePred (IsMethod source name) := fun _ =>
  inferInstanceAs (Decidable (_ ∧ _))

theorem methodAt?_eq_some_iff {name : String} {body : MethodBody} :
    methodAt? source c = some (name, body) ↔
      IsMethod source name c ∧ body.invocations = c.descendants.filterMap (call? source) := by
  unfold methodAt?
  split
  · rename_i hkind
    rw [method?, Option.map_eq_some_iff, IsMethod, Option.map_eq_some_iff, calls_of_method hkind]
    constructor
    · rintro ⟨m, hm, hbody⟩
      obtain ⟨rfl, rfl⟩ := Prod.mk.inj hbody
      exact ⟨⟨hkind, m, hm, rfl⟩, rfl⟩
    · rintro ⟨⟨-, m, hm, rfl⟩, hbody⟩
      exact ⟨m, hm, by rw [← hbody]⟩
  · rename_i hkind
    constructor
    · intro h
      cases h
    · intro h
      exact absurd h.1.1 hkind

theorem find?_ofListFirst {α : Type} (l : List (String × α)) (key : String) :
    (Catalog.ofListFirst l).find? key = (l.find? (·.1 = key)).map (·.2) := by
  have h := Catalog.find?_ofListFirst_map (Prod.fst : String × α → String) Prod.snd l key
  rwa [List.map_id'] at h

theorem find?_methods (ns : List Node) (name : String) (body : MethodBody) :
    (Catalog.ofListFirst (ns.filterMap (methodAt? source))).find? name = some body ↔
      ∃ before m after, ns = before ++ m :: after ∧ IsMethod source name m ∧
        (∀ c ∈ before, ¬IsMethod source name c) ∧
          Collects (IsCall source) m.descendants body.invocations := by
  have hnamed : (fun c => (methodAt? source c).any (·.1 = name)) =
      fun c => decide (IsMethod source name c) := by
    funext c
    by_cases hkind : c.kind = .methodDeclaration
    · simp only [methodAt?, hkind, method?, IsMethod, if_true, true_and]
      cases methodNameNode? c with
      | none => rfl
      | some m => simp
    · simp [methodAt?, hkind, IsMethod]
  rw [find?_ofListFirst, List.find?_filterMap, hnamed, Option.map_eq_some_iff]
  constructor
  · rintro ⟨⟨given, body⟩, hfound, rfl⟩
    obtain ⟨m, hm, hread⟩ := Option.bind_eq_some_iff.mp hfound
    obtain ⟨-, hcalls⟩ := methodAt?_eq_some_iff.mp hread
    obtain ⟨hmethod, before, after, rfl, hbefore⟩ := List.find?_eq_some_iff_append.mp hm
    refine ⟨before, m, after, rfl, of_decide_eq_true hmethod, ?_, ?_⟩
    · intro c hc
      simpa using hbefore c hc
    · exact (collects_iff call?_eq_some_iff).mpr hcalls
  · rintro ⟨before, m, after, rfl, hmethod, hbefore, hcalls⟩
    have hfirst : (before ++ m :: after).find? (fun c => decide (IsMethod source name c)) =
        some m := by
      refine List.find?_eq_some_iff_append.mpr ⟨decide_eq_true hmethod, before, after, rfl, ?_⟩
      intro c hc
      simpa using hbefore c hc
    refine ⟨(name, body), ?_, rfl⟩
    rw [hfirst, Option.bind_some]
    exact methodAt?_eq_some_iff.mpr ⟨hmethod, (collects_iff call?_eq_some_iff).mp hcalls⟩

theorem exists_readsBody {kind : DeclarationKind} {name : String} (above : List String)
    (hkind : n.kind.declarationKind? = some kind)
    (hname : n.nameNode?.map (·.text source) = some name) (hne : name ≠ "") :
    ∃ d, declaration? source above n = some d ∧ ReadsBody source n (above ++ [name]) d := by
  have hdeclared := declared?_eq_some_iff.mpr ⟨hkind, hname, hne⟩
  refine ⟨_, by rw [declaration?_eq, hdeclared, Option.map_some], ?_⟩
  rw [members_eq]
  exact
    { fields := (collects_iff fieldAt?_eq_some_iff).mpr rfl
      nested := collects_nested _ _
      methods := find?_methods _ }

theorem exists_readsBody_overloads :
    let text := "class C\x7b\n#if A\nint x,y;\n#endif\nstruct D\x7b\x7d" ++
      "void M()\x7ba.B<int>(G());\x7dvoid M(int i)\x7bH();\x7d\x7d"
    ∃ n ∈ (CSharp.parse text.toList).tree.children, n.kind.declarationKind? = some .classType ∧
      n.nameNode?.map (·.text (written text)) = some "C" ∧
        ∃ d, declaration? (written text) [] n = some d ∧ ReadsBody (written text) n ["C"] d ∧
          d.fields.map (·.names) = [["x", "y"]] ∧ d.nested.map (·.fullName) = ["C.D"] ∧
            d.methods.find? "M" = some ⟨[⟨"B", ["int"]⟩, ⟨"G", []⟩]⟩ := by
  intro text
  have hread : (CSharp.parse text.toList).tree.children.any (fun n =>
      n.kind.declarationKind? = some .classType &&
        n.nameNode?.map (·.text (written text)) = some "C" &&
          (declaration? (written text) [] n).any fun d =>
            d.fields.map (·.names) = [["x", "y"]] && d.nested.map (·.fullName) = ["C.D"] &&
              d.methods.find? "M" = some ⟨[⟨"B", ["int"]⟩, ⟨"G", []⟩]⟩) = true := by
    decide +kernel
  obtain ⟨n, hn, hread⟩ := List.any_eq_true.mp hread
  simp only [Bool.and_eq_true, decide_eq_true_eq] at hread
  obtain ⟨⟨hkind, hname⟩, hdeclared⟩ := hread
  obtain ⟨d, hd, hbody⟩ := exists_readsBody [] hkind hname (by decide)
  rw [hd, Option.any_some] at hdeclared
  simp only [Bool.and_eq_true, decide_eq_true_eq] at hdeclared
  exact ⟨n, hn, hkind, hname, d, hd, hbody, hdeclared.1.1, hdeclared.1.2, hdeclared.2⟩

end Members

end Extraction

end EntityGraph
