import EntityGraph.Proofs.Components
import EntityGraph.Proofs.TypeBodies
/-!
The field statements of a type and of the types nested in it, in the order of the text. A type keeps
its own fields apart from its nested types, and sorting by place puts them together again: where the
ranges of the nodes nest, no two statements begin at one place.
-/

namespace EntityGraph

namespace Node

structure WellPlaced (n : Node) : Prop where
  within : ∀ c ∈ n.children, n.start ≤ c.start ∧ c.stop ≤ n.stop
  apart : n.children.Pairwise fun a b => a.stop ≤ b.start
  nonempty : n.kind = .fieldDeclaration → n.start < n.stop

instance : DecidablePred WellPlaced := fun n =>
  decidable_of_iff
    ((∀ c ∈ n.children, n.start ≤ c.start ∧ c.stop ≤ n.stop) ∧
      (n.children.Pairwise fun a b => a.stop ≤ b.start) ∧
        (n.kind = .fieldDeclaration → n.start < n.stop))
    ⟨fun h => ⟨h.1, h.2.1, h.2.2⟩, fun h => ⟨h.within, h.apart, h.nonempty⟩⟩

structure Placed (ns : List Node) : Prop where
  each : ∀ n ∈ preorderAll ns, n.WellPlaced
  apart : ns.Pairwise fun a b => a.stop ≤ b.start

variable {n m c : Node} {ns : List Node}

theorem mem_preorder : m ∈ n.preorder ↔ m = n ∨ m ∈ n.descendants := by
  rw [preorder_eq, List.mem_cons]

theorem mem_preorderAll_of_mem (h : n ∈ ns) : n ∈ preorderAll ns :=
  mem_preorderAll.mpr ⟨n, h, .inl rfl⟩

theorem mem_descendants_trans (hm : m ∈ n.descendants) (hc : c ∈ m.descendants) :
    c ∈ n.descendants := by
  induction n using descendants_induct with
  | node n ih =>
      obtain ⟨k, hk, hm⟩ := mem_preorderAll.mp hm
      refine mem_preorderAll.mpr ⟨k, hk, .inr ?_⟩
      rcases hm with rfl | hm
      · exact hc
      · exact ih k (mem_preorderAll_of_mem hk) hm

theorem mem_descendants_of_mem_preorder (hm : m ∈ n.descendants) (hc : c ∈ m.preorder) :
    c ∈ n.descendants := by
  rcases mem_preorder.mp hc with rfl | hc
  · exact hm
  · exact mem_descendants_trans hm hc

theorem mem_preorderAll_trans (hm : m ∈ preorderAll ns) (hc : c ∈ m.descendants) :
    c ∈ preorderAll ns := by
  obtain ⟨n, hn, hm⟩ := mem_preorderAll.mp hm
  refine mem_preorderAll.mpr ⟨n, hn, .inr ?_⟩
  rcases hm with rfl | hm
  · exact hc
  · exact mem_descendants_trans hm hc

namespace Placed

theorem below (h : Placed ns) (hn : n ∈ preorderAll ns) : Placed n.children where
  each m hm := h.each m (mem_preorderAll_trans hn hm)
  apart := (h.each n hn).apart

theorem tail (h : Placed (n :: ns)) : Placed ns where
  each m hm := h.each m (by rw [preorderAll]; exact List.mem_append_right _ hm)
  apart := h.apart.of_cons

theorem items (h : Placed ns) (hn : n ∈ preorderAll ns) : Placed n.items := by
  rw [Node.items, ← find?_isBodyOf]
  cases hbody : n.children.find? n.isBodyOf with
  | none => exact ⟨fun _ hm => absurd hm List.not_mem_nil, .nil⟩
  | some b => exact (h.below hn).below (mem_preorderAll_of_mem (List.mem_of_find?_eq_some hbody))

theorem exists_around (h : Placed ns) (hc : c ∈ opened ns) :
    ∃ n ∈ ns, n.start ≤ c.start ∧ c.stop ≤ n.stop := by
  induction ns using Extraction.siblings_induct with
  | below ns ih =>
      induction ns with
      | nil => rw [opened] at hc; cases hc
      | cons n ns ihns =>
          rw [opened_cons] at hc
          rcases List.mem_append.mp hc with hc | hc
          · refine ⟨n, List.mem_cons_self, ?_⟩
            have hn := mem_preorderAll_of_mem (@List.mem_cons_self _ n ns)
            split at hc
            · obtain ⟨m, hm, hstart, hstop⟩ := (ih n List.mem_cons_self).1 (h.below hn) hc
              obtain ⟨hstart', hstop'⟩ := (h.each n hn).within m hm
              omega
            · obtain rfl := List.mem_singleton.mp hc
              exact ⟨Nat.le_refl _, Nat.le_refl _⟩
          · obtain ⟨m, hm, hrange⟩ := ihns (fun m hm => ih m (List.mem_cons_of_mem n hm)) h.tail hc
            exact ⟨m, List.mem_cons_of_mem n hm, hrange⟩

theorem apart_opened (h : Placed ns) : (opened ns).Pairwise fun a b => a.stop ≤ b.start := by
  induction ns using Extraction.siblings_induct with
  | below ns ih =>
      induction ns with
      | nil => rw [opened]; exact .nil
      | cons n ns ihns =>
          have hn := mem_preorderAll_of_mem (@List.mem_cons_self _ n ns)
          have hrest := ihns (fun m hm => ih m (List.mem_cons_of_mem n hm)) h.tail
          rw [opened_cons]
          refine List.pairwise_append.mpr ⟨?_, hrest, ?_⟩
          · split
            · exact (ih n List.mem_cons_self).1 (h.below hn)
            · exact List.pairwise_singleton _ n
          · intro a ha b hb
            obtain ⟨m, hm, hstart, -⟩ := h.tail.exists_around hb
            have hbetween : n.stop ≤ m.start := (List.pairwise_cons.mp h.apart).1 m hm
            have hstop : a.stop ≤ n.stop := by
              split at ha
              · obtain ⟨k, hk, -, hstop⟩ := (h.below hn).exists_around ha
                exact Nat.le_trans hstop ((h.each n hn).within k hk).2
              · obtain rfl := List.mem_singleton.mp ha
                exact Nat.le_refl _
            omega

theorem opened (h : Placed ns) : Placed (opened ns) where
  each m hm := by
    obtain ⟨c, hc, hm⟩ := mem_preorderAll.mp hm
    have hc := mem_preorderAll_of_mem_opened ns hc
    rcases hm with rfl | hm
    · exact h.each m hc
    · exact h.each m (mem_preorderAll_trans hc hm)
  apart := h.apart_opened

theorem range_of_mem_items (h : Placed ns) (hn : n ∈ preorderAll ns)
    (hc : c ∈ Node.opened n.items) : n.start ≤ c.start ∧ c.stop ≤ n.stop := by
  obtain ⟨m, hm, hstart, hstop⟩ := (h.items hn).exists_around hc
  obtain ⟨b, hb, hitems⟩ := exists_body_of_mem_items hm
  rw [hitems] at hm
  obtain ⟨hstart', hstop'⟩ := (h.each n hn).within b hb
  obtain ⟨hstart'', hstop''⟩ :=
    ((h.below hn).each b (mem_preorderAll_of_mem hb)).within m hm
  omega

end Placed

end Node

theorem Declaration.fieldsWithin_eq (d : Declaration) :
    d.fieldsWithin = d.fields ++ d.nested.flatMap fieldsWithin := by
  have hwalk : ∀ e : Declaration, e.walk.flatMap (·.fields) = e.fieldsWithin := by
    intro e
    rw [walk_eq_preorder, fieldsWithin]
  rw [fieldsWithin, preorder_eq, List.flatMap_cons, ← flatMap_walk, List.flatMap_assoc,
    funext hwalk]

theorem StablySorted.eq_of_increasing {xs ys zs : List FieldStatement} (h : StablySorted xs ys)
    (hperm : zs.Perm xs) (hz : zs.Pairwise fun a b => a.start < b.start) : ys = zs := by
  have hys : ys.Perm zs := h.perm.trans hperm.symm
  have hstarts : (zs.map (·.start)).Nodup := List.pairwise_map.mpr (hz.imp Nat.ne_of_lt)
  refine hys.eq_of_pairwise ?_ h.ordered (hz.imp Nat.le_of_lt)
  intro a b ha hb hab hba
  exact List.inj_on_of_nodup_map hstarts (hys.mem_iff.mp ha) hb (Nat.le_antisymm hab hba)

namespace Extraction

open Node Declaration

variable {source : Array UInt8} {above outer scope : List String} {n : Node} {ns : List Node}
  {d e : Declaration} {fs : List FieldStatement}

section Stated

inductive Stated (source : Array UInt8) : List Node → List FieldStatement → Prop
  | nil : Stated source [] []
  | field {c ns f fs} (hc : IsField source c f) (h : Stated source ns fs) :
      Stated source (c :: ns) (f :: fs)
  | type {c ns inner fs} (hc : IsNamedType source c) (hinner : Stated source (opened c.items) inner)
      (h : Stated source ns fs) : Stated source (c :: ns) (inner ++ fs)
  | skip {c ns fs} (hfield : ∀ f, ¬IsField source c f) (htype : ¬IsNamedType source c)
      (h : Stated source ns fs) : Stated source (c :: ns) fs

def Yields (source : Array UInt8) (n : Node) (d : Declaration) : Prop :=
  ∃ above, declaration? source above n = some d

structure InSourceOrder (source : Array UInt8) (n : Node) (d : Declaration) : Prop where
  yields : Yields source n d
  stated : Stated source (opened n.items) d.allFields
  once : d.allFields.Perm d.fieldsWithin
  increasing : d.allFields.Pairwise fun a b => a.start < b.start

theorem exists_stated_of_forall (h : ∀ c ∈ ns, ∃ fs, Stated source (opened c.items) fs) :
    ∃ fs, Stated source ns fs := by
  induction ns with
  | nil => exact ⟨[], .nil⟩
  | cons c ns ih =>
      obtain ⟨inner, hinner⟩ := h c List.mem_cons_self
      obtain ⟨fs, hfs⟩ := ih fun m hm => h m (List.mem_cons_of_mem c hm)
      by_cases hfield : ∃ f, IsField source c f
      · obtain ⟨f, hf⟩ := hfield
        exact ⟨f :: fs, .field hf hfs⟩
      · by_cases htype : IsNamedType source c
        · exact ⟨inner ++ fs, .type htype hinner hfs⟩
        · exact ⟨fs, .skip (not_exists.mp hfield) htype hfs⟩

theorem exists_stated (source : Array UInt8) (n : Node) :
    ∃ fs, Stated source (opened n.items) fs := by
  induction n using descendants_induct with
  | node n ih => exact exists_stated_of_forall fun c hc => ih c (mem_descendants_of_mem_items hc)

def StartsAmong (ns : List Node) (f : FieldStatement) : Prop :=
  ∃ n ∈ ns, n.start ≤ f.start ∧ f.start < n.stop

theorem StartsAmong.cons {f : FieldStatement} (h : StartsAmong ns f) (n : Node) :
    StartsAmong (n :: ns) f := by
  obtain ⟨m, hm, hrange⟩ := h
  exact ⟨m, List.mem_cons_of_mem n hm, hrange⟩

theorem StartsAmong.after {f : FieldStatement} (h : StartsAmong ns f) (hplaced : Placed (n :: ns)) :
    n.stop ≤ f.start := by
  obtain ⟨m, hm, hstart, -⟩ := h
  exact Nat.le_trans ((List.pairwise_cons.mp hplaced.apart).1 m hm) hstart

theorem StartsAmong.around {f : FieldStatement} (h : StartsAmong (opened n.items) f)
    (hplaced : Placed ns) (hn : n ∈ Node.preorderAll ns) :
    n.start ≤ f.start ∧ f.start < n.stop := by
  obtain ⟨m, hm, hstart, hstop⟩ := h
  obtain ⟨hstart', hstop'⟩ := hplaced.range_of_mem_items hn hm
  omega

theorem IsField.range {c : Node} {f : FieldStatement} (h : IsField source c f)
    (hplaced : c.WellPlaced) : c.start ≤ f.start ∧ f.start < c.stop := by
  rw [h.start]
  exact ⟨Nat.le_refl _, hplaced.nonempty h.kind⟩

theorem Stated.startsAmong (h : Stated source ns fs) (hplaced : Placed ns) :
    ∀ f ∈ fs, StartsAmong ns f := by
  induction h with
  | nil => exact fun _ hf => absurd hf List.not_mem_nil
  | @field c ns f fs hc _ ih =>
      have hrange := hc.range (hplaced.each c (mem_preorderAll_of_mem List.mem_cons_self))
      intro g hg
      rcases List.mem_cons.mp hg with rfl | hg
      · exact ⟨c, List.mem_cons_self, hrange⟩
      · exact (ih hplaced.tail g hg).cons c
  | @type c ns inner fs _ _ _ ihinner ih =>
      have hc : c ∈ Node.preorderAll (c :: ns) := mem_preorderAll_of_mem List.mem_cons_self
      intro g hg
      rcases List.mem_append.mp hg with hg | hg
      · exact ⟨c, List.mem_cons_self, (ihinner (hplaced.items hc).opened g hg).around hplaced hc⟩
      · exact (ih hplaced.tail g hg).cons c
  | @skip c _ _ _ _ _ ih => exact fun g hg => (ih hplaced.tail g hg).cons c

theorem Stated.increasing (h : Stated source ns fs) (hplaced : Placed ns) :
    fs.Pairwise fun a b => a.start < b.start := by
  induction h with
  | nil => exact .nil
  | @field c ns f fs hc hrest ih =>
      have hrange := hc.range (hplaced.each c (mem_preorderAll_of_mem List.mem_cons_self))
      refine List.pairwise_cons.mpr ⟨?_, ih hplaced.tail⟩
      intro g hg
      exact Nat.lt_of_lt_of_le hrange.2 ((hrest.startsAmong hplaced.tail g hg).after hplaced)
  | @type c ns inner fs _ hinner hrest ihinner ih =>
      have hc : c ∈ Node.preorderAll (c :: ns) := mem_preorderAll_of_mem List.mem_cons_self
      have hitems := (hplaced.items hc).opened
      refine List.pairwise_append.mpr ⟨ihinner hitems, ih hplaced.tail, ?_⟩
      -- the nested type ends before what follows it, so no statement of it comes later
      intro f hf g hg
      have hinside := (hinner.startsAmong hitems f hf).around hplaced hc
      exact Nat.lt_of_lt_of_le hinside.2 ((hrest.startsAmong hplaced.tail g hg).after hplaced)
  | skip _ _ _ ih => exact ih hplaced.tail

theorem members_of_declaration? (h : declaration? source above n = some d) :
    d.fields = (opened n.items).filterMap (fieldAt? source) ∧
      d.nested = (opened n.items).filterMap (declaration? source (above ++ [d.shortName])) := by
  rw [declaration?_eq] at h
  obtain ⟨p, -, rfl⟩ := Option.map_eq_some_iff.mp h
  simp only [assemble, members_eq, and_self]

theorem Stated.perm (h : Stated source ns fs) :
    ∀ q, fs.Perm (ns.filterMap (fieldAt? source) ++
      (ns.filterMap (declaration? source q)).flatMap fieldsWithin) := by
  induction h with
  | nil => intro q; exact .refl _
  | @field c ns f fs hc _ ih =>
      intro q
      have htype : declaration? source q c = none := by
        rw [declaration?, declared?_eq_none_of_kind (by rw [hc.kind]; rfl), Option.map_none]
      rw [List.filterMap_cons_some ((fieldAt?_eq_some_iff c f).mpr hc),
        List.filterMap_cons_none htype]
      exact (ih q).cons f
  | @type c ns inner fs hc _ _ ihinner ih =>
      intro q
      obtain ⟨e, he⟩ := Option.isSome_iff_exists.mp ((declaration?_isSome_iff q c).mpr hc)
      obtain ⟨hfields, hnested⟩ := members_of_declaration? he
      have hfield : fieldAt? source c = none := by
        refine if_neg fun hkind => ?_
        have := hc.kind
        rw [hkind] at this
        cases this
      have hinner : inner.Perm e.fieldsWithin := by
        rw [fieldsWithin_eq, hfields, hnested]
        exact ihinner _
      rw [List.filterMap_cons_none hfield, List.filterMap_cons_some he, List.flatMap_cons]
      exact (hinner.append (ih q)).trans (List.perm_append_comm_assoc _ _ _)
  | @skip c ns fs hfield htype _ ih =>
      intro q
      have hfield : fieldAt? source c = none :=
        Option.eq_none_iff_forall_ne_some.mpr fun f hf =>
          hfield f ((fieldAt?_eq_some_iff c f).mp hf)
      have htype : declaration? source q c = none :=
        Option.not_isSome_iff_eq_none.mp fun h => htype ((declaration?_isSome_iff q c).mp h)
      rw [List.filterMap_cons_none hfield, List.filterMap_cons_none htype]
      exact ih q

theorem inSourceOrder_of_yields (hplaced : Placed ns) (hn : n ∈ Node.preorderAll ns)
    (h : Yields source n d) : InSourceOrder source n d := by
  obtain ⟨above, h⟩ := h
  obtain ⟨fs, hfs⟩ := exists_stated source n
  obtain ⟨hfields, hnested⟩ := members_of_declaration? h
  have hincreasing := hfs.increasing (hplaced.items hn).opened
  have hsorted := stablySorted_allFields d
  have hperm : fs.Perm d.fieldsWithin := by
    rw [fieldsWithin_eq, hfields, hnested]
    exact hfs.perm _
  have heq := hsorted.eq_of_increasing hperm hincreasing
  rw [← heq] at hfs hincreasing
  exact ⟨⟨above, h⟩, hfs, hsorted.perm, hincreasing⟩

end Stated

section Declared

theorem exists_yields_of_mem_inScope
    (hchildren : ∀ scope outer, d ∈ inScopeAll source outer scope n.children →
      ∃ m ∈ n.descendants, Yields source m d)
    (hbodies : ∀ b ∈ n.children, ∀ scope outer, d ∈ inScopeAll source outer scope b.children →
      ∃ m ∈ b.descendants, Yields source m d)
    (h : d ∈ inScope source outer scope n) : ∃ m ∈ n.preorder, Yields source m d := by
  have hbelow : (∃ m ∈ n.descendants, Yields source m d) →
      ∃ m ∈ n.preorder, Yields source m d := by
    rintro ⟨m, hm, hd⟩
    exact ⟨m, mem_preorder.mpr (.inr hm), hd⟩
  rw [inScope_eq] at h
  split at h
  · rw [inBody_eq] at h
    cases hbody : n.children.find? n.isBodyOf with
    | none =>
        rw [hbody, Option.map_none, Option.getD_none, inScopeAll] at h
        cases h
    | some b =>
        rw [hbody] at h
        have hb := List.mem_of_find?_eq_some hbody
        obtain ⟨m, hm, hd⟩ := hbodies b hb _ _ h
        exact hbelow ⟨m, mem_preorderAll.mpr ⟨b, hb, .inr hm⟩, hd⟩
  · split at h
    · exact hbelow (hchildren _ _ h)
    · split at h
      · exact ⟨n, mem_preorder.mpr (.inl rfl), scope, Option.mem_toList.mp h⟩
      · split at h
        · exact hbelow (hchildren _ _ h)
        · cases h

theorem exists_yields_of_mem_inScopeAll (ns : List Node) :
    ∀ scope outer, d ∈ inScopeAll source outer scope ns →
      ∃ n ∈ Node.preorderAll ns, Yields source n d := by
  induction ns using siblings_induct with
  | below ns ih =>
      intro scope outer
      induction ns generalizing scope with
      | nil => intro h; rw [inScopeAll] at h; cases h
      | cons n ns ihns =>
          intro h
          obtain ⟨hchildren, hbodies⟩ := ih n List.mem_cons_self
          rw [inScopeAll] at h
          rw [Node.preorderAll]
          rcases List.mem_append.mp h with h | h
          · obtain ⟨m, hm, hd⟩ := exists_yields_of_mem_inScope hchildren hbodies h
            exact ⟨m, List.mem_append_left _ hm, hd⟩
          · obtain ⟨m, hm, hd⟩ := ihns (fun m hm => ih m (List.mem_cons_of_mem n hm)) _ h
            exact ⟨m, List.mem_append_right _ hm, hd⟩

theorem Yields.exists_nested (h : Yields source n d) (he : e ∈ d.preorder) :
    ∃ m ∈ n.preorder, Yields source m e := by
  induction n using descendants_induct generalizing d with
  | node n ih =>
      rw [Declaration.preorder_eq] at he
      rcases List.mem_cons.mp he with rfl | he
      · exact ⟨n, mem_preorder.mpr (.inl rfl), h⟩
      · obtain ⟨k, hk, he⟩ := Declaration.mem_preorderAll.mp he
        obtain ⟨above, h⟩ := h
        rw [(members_of_declaration? h).2] at hk
        obtain ⟨c, hc, hk⟩ := List.mem_filterMap.mp hk
        have hc := mem_descendants_of_mem_items hc
        obtain ⟨m, hm, hd⟩ := ih c hc ⟨_, hk⟩ he
        exact ⟨m, mem_preorder.mpr (.inr (mem_descendants_of_mem_preorder hc hm)), hd⟩

theorem exists_inSourceOrder {root : Node} (hplaced : ∀ n ∈ root.preorder, n.WellPlaced) :
    ∀ d ∈ Declaration.preorderAll (root.declarations source),
      ∃ n ∈ root.descendants, InSourceOrder source n d := by
  intro d hd
  have hchildren : Placed root.children :=
    { each := fun n hn => hplaced n (mem_preorder.mpr (.inr hn))
      apart := (hplaced root (mem_preorder.mpr (.inl rfl))).apart }
  obtain ⟨top, htop, hd⟩ := Declaration.mem_preorderAll.mp hd
  obtain ⟨k, hk, hyields⟩ := exists_yields_of_mem_inScopeAll _ _ _ htop
  obtain ⟨n, hn, hyields⟩ := hyields.exists_nested hd
  have hn : n ∈ root.descendants := mem_descendants_of_mem_preorder hk hn
  exact ⟨n, hn, inSourceOrder_of_yields hchildren hn hyields⟩

theorem exists_inSourceOrder_nested :
    let text := "class C\x7b\n#if A\nclass D\x7bint a;\x7d\n#endif\nint b;" ++
      "struct E\x7bint c;\x7dint d;\x7d"
    let root := (CSharp.parse text.toList).tree
    (∀ n ∈ root.preorder, n.WellPlaced) ∧
      ∃ d ∈ Declaration.preorderAll (root.declarations (written text)),
        d.fieldsWithin.map (·.names) = [["b"], ["d"], ["a"], ["c"]] ∧
          d.fieldsWithin.map (·.start) = [38, 60, 23, 53] ∧
            ∃ n ∈ root.descendants, InSourceOrder (written text) n d := by
  intro text root
  have hplaced : ∀ n ∈ root.preorder, n.WellPlaced := by decide +kernel
  have hread : (Declaration.preorderAll (root.declarations (written text))).any (fun d =>
      d.fieldsWithin.map (·.names) = [["b"], ["d"], ["a"], ["c"]] &&
        d.fieldsWithin.map (·.start) = [38, 60, 23, 53]) = true := by
    decide +kernel
  obtain ⟨d, hd, hread⟩ := List.any_eq_true.mp hread
  simp only [Bool.and_eq_true, decide_eq_true_eq] at hread
  exact ⟨hplaced, d, hd, hread.1, hread.2, exists_inSourceOrder hplaced d hd⟩

end Declared

end Extraction

end EntityGraph
