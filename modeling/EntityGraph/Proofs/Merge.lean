import EntityGraph.Proofs.MergePlaces
import Mathlib.Data.List.Induction
import Mathlib.Data.List.Nodup

namespace EntityGraph.Merge

structure FirstSeen (all names : List String) : Prop where
  nodup : names.Nodup
  mem_iff : ∀ n, n ∈ names ↔ n ∈ all
  ordered : names.Pairwise fun a b => all.idxOf a < all.idxOf b

theorem FirstSeen.nil : FirstSeen [] [] :=
  ⟨List.nodup_nil, by simp, .nil⟩

section

variable {all names : List String} {n : String}

theorem FirstSeen.idxOf_concat (h : FirstSeen all names) (n : String) :
    ∀ m ∈ names, (all ++ [n]).idxOf m = all.idxOf m := fun m hm =>
  List.idxOf_append_of_mem ((h.mem_iff m).mp hm)

theorem FirstSeen.ordered_concat (h : FirstSeen all names) (n : String) :
    names.Pairwise fun a b => (all ++ [n]).idxOf a < (all ++ [n]).idxOf b := by
  refine h.ordered.imp_of_mem ?_
  intro a b ha hb hab
  rwa [h.idxOf_concat n a ha, h.idxOf_concat n b hb]

theorem FirstSeen.old (h : FirstSeen all names) (hn : n ∈ names) :
    FirstSeen (all ++ [n]) names := by
  refine ⟨h.nodup, ?_, h.ordered_concat n⟩
  intro m
  rw [h.mem_iff m, List.mem_append, List.mem_singleton]
  constructor
  · exact .inl
  · rintro (hm | rfl)
    · exact hm
    · exact (h.mem_iff m).mp hn

theorem FirstSeen.new (h : FirstSeen all names) (hn : n ∉ names) :
    FirstSeen (all ++ [n]) (names ++ [n]) := by
  have hnew : n ∉ all := fun hm => hn ((h.mem_iff n).mpr hm)
  have hlast : (all ++ [n]).idxOf n = all.length := by
    rw [List.idxOf_append_of_notMem hnew]
    simp
  refine ⟨?_, ?_, ?_⟩
  · rw [List.nodup_append]
    refine ⟨h.nodup, List.nodup_singleton n, ?_⟩
    intro a ha b hb hab
    rw [List.mem_singleton] at hb
    exact hn (hb ▸ hab ▸ ha)
  · intro m
    simp [h.mem_iff m]
  · rw [List.pairwise_append]
    refine ⟨h.ordered_concat n, List.pairwise_singleton _ n, ?_⟩
    intro a ha b hb
    rw [List.mem_singleton] at hb
    subst hb
    rw [h.idxOf_concat b a ha, hlast]
    exact List.idxOf_lt_length_of_mem ((h.mem_iff a).mp ha)

end

theorem idxOf_filter_lt {p : String → Bool} {a b : String} (ha : p a = true) (hb : p b = true) :
    ∀ {l : List String}, (l.filter p).idxOf a < (l.filter p).idxOf b → l.idxOf a < l.idxOf b := by
  intro l
  induction l with
  | nil => intro h; exact h
  | cons x xs ih =>
      intro h
      by_cases hx : p x = true
      · rw [List.filter_cons_of_pos hx] at h
        by_cases hxa : x = a
        · subst hxa
          have hne : x ≠ b := by rintro rfl; exact Nat.lt_irrefl _ h
          simp [List.idxOf_cons_ne _ hne]
        · by_cases hxb : x = b
          · subst hxb
            simp at h
          · rw [List.idxOf_cons_ne _ hxa, List.idxOf_cons_ne _ hxb] at h ⊢
            exact Nat.succ_lt_succ (ih (Nat.lt_of_succ_lt_succ h))
      · rw [List.filter_cons_of_neg hx] at h
        have hxa : x ≠ a := by rintro rfl; exact hx ha
        have hxb : x ≠ b := by rintro rfl; exact hx hb
        rw [List.idxOf_cons_ne _ hxa, List.idxOf_cons_ne _ hxb]
        exact Nat.succ_lt_succ (ih h)

section ByName

variable {α β : Type} {name : α → String} {combine : α → α → α}

theorem names_add (hname : ∀ a b, name (combine a b) = name a) (item : α) (l : List α) :
    (add name combine item l).map name =
      if name item ∈ l.map name then l.map name else l.map name ++ [name item] := by
  induction l with
  | nil => simp [add]
  | cons x xs ih =>
      by_cases hx : name x = name item
      · simp [add, hx, hname]
      · simp only [add, if_neg hx, List.map_cons, ih, List.mem_cons, Ne.symm hx, false_or]
        split <;> simp

theorem firstSeen_byName (hname : ∀ a b, name (combine a b) = name a) (items : List α) :
    FirstSeen (items.map name) ((byName name combine items).map name) := by
  induction items using List.reverseRecOn with
  | nil => exact FirstSeen.nil
  | append_singleton items item ih =>
      rw [byName_concat hname, names_add hname, List.map_append, List.map_singleton]
      split
      · rename_i h
        exact ih.old h
      · rename_i h
        exact ih.new h

def group (name : α → String) (combine : α → α → α) (items : List α) (n : String) : Option α :=
  match items.filter (name · = n) with
  | [] => none
  | x :: xs => some (xs.foldl combine x)

theorem group_concat_self (items : List α) (item : α) :
    group name combine (items ++ [item]) (name item) =
      some (match group name combine items (name item) with
        | none => item
        | some x => combine x item) := by
  unfold group
  rw [List.filter_append]
  cases items.filter (name · = name item) with
  | nil => simp
  | cons x xs => simp

theorem group_concat_ne (items : List α) {item : α} {n : String} (h : name item ≠ n) :
    group name combine (items ++ [item]) n = group name combine items n := by
  unfold group
  rw [List.filter_append]
  simp [h]

theorem find?_add (hname : ∀ a b, name (combine a b) = name a) (item : α) (n : String)
    (l : List α) :
    (add name combine item l).find? (name · = n) =
      if name item = n then
        some (match l.find? (name · = n) with
          | none => item
          | some x => combine x item)
      else l.find? (name · = n) := by
  induction l with
  | nil => by_cases h : name item = n <;> simp [add, h]
  | cons x xs ih =>
      by_cases hx : name x = name item
      · by_cases h : name item = n <;> simp [add, hx, hname, h]
      · rw [add, if_neg hx]
        by_cases hn : name x = n
        · have h : name item ≠ n := fun e => hx (hn.trans e.symm)
          simp [hn, h]
        · simp [hn, ih]

theorem find?_byName (hname : ∀ a b, name (combine a b) = name a) (items : List α) (n : String) :
    (byName name combine items).find? (name · = n) = group name combine items n := by
  induction items using List.reverseRecOn with
  | nil => rfl
  | append_singleton items item ih =>
      rw [byName_concat hname, find?_add hname, ih]
      split
      · rename_i h
        subst h
        exact (group_concat_self items item).symm
      · rename_i h
        exact (group_concat_ne items h).symm

theorem filter_add_of_pos {keep : String → Bool} (hname : ∀ a b, name (combine a b) = name a)
    {item : α} (h : keep (name item) = true) (l : List α) :
    (add name combine item l).filter (keep ∘ name) =
      add name combine item (l.filter (keep ∘ name)) := by
  induction l with
  | nil => simp [add, h]
  | cons x xs ih =>
      by_cases hx : name x = name item
      · simp [add, hx, hname, h]
      · rw [add, if_neg hx]
        by_cases hk : keep (name x) = true
        · simp [hk, add, hx, ih]
        · simp [hk, ih]

theorem filter_add_of_neg {keep : String → Bool} (hname : ∀ a b, name (combine a b) = name a)
    {item : α} (h : ¬keep (name item) = true) (l : List α) :
    (add name combine item l).filter (keep ∘ name) = l.filter (keep ∘ name) := by
  induction l with
  | nil => simp [add, h]
  | cons x xs ih =>
      by_cases hx : name x = name item
      · simp [add, hx, hname, h]
      · rw [add, if_neg hx]
        by_cases hk : keep (name x) = true
        · simp [hk, ih]
        · simp [hk, ih]

theorem byName_filter (hname : ∀ a b, name (combine a b) = name a) (keep : String → Bool)
    (items : List α) :
    byName name combine (items.filter (keep ∘ name)) =
      (byName name combine items).filter (keep ∘ name) := by
  induction items using List.reverseRecOn with
  | nil => rfl
  | append_singleton items item ih =>
      rw [List.filter_append, byName_concat hname]
      by_cases h : keep (name item) = true
      · have hitem : [item].filter (keep ∘ name) = [item] := by simp [h]
        rw [hitem, byName_concat hname, ih, filter_add_of_pos hname h]
      · have hitem : [item].filter (keep ∘ name) = [] := by simp [h]
        rw [hitem, List.append_nil, ih, filter_add_of_neg hname h]

theorem find?_eq_some_of_nodup {l : List α} (h : (l.map name).Nodup) {x : α} (hx : x ∈ l) :
    l.find? (name · = name x) = some x := by
  induction l with
  | nil => simp at hx
  | cons y ys ih =>
      rw [List.map_cons, List.nodup_cons] at h
      rcases List.mem_cons.mp hx with rfl | hx
      · simp
      · have hne : name y ≠ name x := fun e => h.1 (e ▸ List.mem_map_of_mem hx)
        simp [hne, ih h.2 hx]

theorem find?_filter_name (keep : String → Bool) (l : List α) (n : String) :
    (l.filter (keep ∘ name)).find? (name · = n) =
      if keep n then l.find? (name · = n) else none := by
  rw [List.find?_filter]
  by_cases hn : keep n = true
  · rw [if_pos hn]
    congr 1
    funext x
    by_cases hx : name x = n <;> simp [hx, hn]
  · rw [if_neg hn, List.find?_eq_none]
    intro x _ hx
    simp only [Function.comp_apply, decide_eq_true_eq] at hx
    exact hn (hx.2 ▸ hx.1)

theorem group_of_mem_byName (hname : ∀ a b, name (combine a b) = name a) {items : List α} {x : α}
    (hx : x ∈ byName name combine items) : group name combine items (name x) = some x := by
  rw [← find?_byName hname items (name x)]
  exact find?_eq_some_of_nodup (firstSeen_byName hname items).nodup hx

theorem exists_folded_of_mem_byName (hname : ∀ a b, name (combine a b) = name a) {items : List α}
    {x : α} (hx : x ∈ byName name combine items) :
    ∃ first others, items.filter (name · = name x) = first :: others ∧
      x = others.foldl combine first := by
  have hgroup := group_of_mem_byName hname hx
  unfold group at hgroup
  split at hgroup
  · cases hgroup
  · rename_i first others hitems
    cases hgroup
    exact ⟨first, others, hitems, rfl⟩

theorem flatMap_foldl_combine {part : α → List β}
    (hpart : ∀ a b, part (combine a b) = part a ++ part b) (x : α) (xs : List α) :
    part (xs.foldl combine x) = part x ++ xs.flatMap part := by
  induction xs generalizing x with
  | nil => simp
  | cons y ys ih => simp [ih, hpart]

theorem part_of_mem_byName (hname : ∀ a b, name (combine a b) = name a) {part : α → List β}
    (hpart : ∀ a b, part (combine a b) = part a ++ part b) {items : List α} {x : α}
    (hx : x ∈ byName name combine items) :
    part x = (items.filter (name · = name x)).flatMap part := by
  obtain ⟨first, others, hitems, hfold⟩ := exists_folded_of_mem_byName hname hx
  calc
    part x = part (others.foldl combine first) := congrArg part hfold
    _ = part first ++ others.flatMap part := flatMap_foldl_combine hpart first others
    _ = (items.filter (name · = name x)).flatMap part := by rw [hitems, List.flatMap_cons]

theorem getD_find?_byName (hname : ∀ a b, name (combine a b) = name a) {part : α → List β}
    (hpart : ∀ a b, part (combine a b) = part a ++ part b) (items : List α) (n : String) :
    (((byName name combine items).find? (name · = n)).map part).getD [] =
      (items.filter (name · = n)).flatMap part := by
  rw [find?_byName hname, group]
  cases items.filter (name · = n) with
  | nil => rfl
  | cons x xs => simp [flatMap_foldl_combine hpart]

section Entities

variable {γ : Type} {key : γ → String} {entity : γ → α}

theorem firstSeen_byName_map (hentity : ∀ d, name (entity d) = key d)
    (hname : ∀ a b, name (combine a b) = name a) (ds : List γ) :
    FirstSeen (ds.map key) ((byName name combine (ds.map entity)).map name) := by
  have hseen := firstSeen_byName hname (ds.map entity)
  have hkeys : name ∘ entity = key := funext hentity
  rwa [List.map_map, hkeys] at hseen

theorem flatMap_filter_map_entity (hentity : ∀ d, name (entity d) = key d) (part : α → List β)
    (ds : List γ) (n : String) :
    ((ds.map entity).filter (name · = n)).flatMap part =
      (ds.filter (key · = n)).flatMap fun d => part (entity d) := by
  rw [List.filter_map, List.flatMap_map]
  congr 1
  refine List.filter_congr ?_
  intro d _
  simp [hentity]

theorem part_of_mem_byName_map (hentity : ∀ d, name (entity d) = key d)
    (hname : ∀ a b, name (combine a b) = name a) {part : α → List β}
    (hpart : ∀ a b, part (combine a b) = part a ++ part b) {ds : List γ} {x : α}
    (hx : x ∈ byName name combine (ds.map entity)) :
    part x = (ds.filter (key · = name x)).flatMap fun d => part (entity d) := by
  rw [part_of_mem_byName hname hpart hx, flatMap_filter_map_entity hentity]

theorem getD_find?_byName_map (hentity : ∀ d, name (entity d) = key d)
    (hname : ∀ a b, name (combine a b) = name a) {part : α → List β}
    (hpart : ∀ a b, part (combine a b) = part a ++ part b) (ds : List γ) (n : String) :
    (((byName name combine (ds.map entity)).find? (name · = n)).map part).getD [] =
      (ds.filter (key · = n)).flatMap fun d => part (entity d) := by
  rw [getD_find?_byName hname hpart, flatMap_filter_map_entity hentity]

end Entities

/-- Whichever items have been taken in, the names among them are those that have a place, and at its
place stands the item of that name. In the end each name has one item, in the order in which the
names were met, and that is all items of the name combined in their order. -/
structure GroupsStably (name : α → String) (combine : α → α → α) (items : List α) : Prop where
  firstSeen : FirstSeen (items.map name) ((byName name combine items).map name)
  folded : ∀ x ∈ byName name combine items, ∃ first others,
    items.filter (name · = name x) = first :: others ∧ x = others.foldl combine first
  met : ∀ taken, taken <+: items → ∀ n,
    n ∈ taken.map name ↔ ∃ place, (run name combine taken).places.find? n = some place
  placed : ∀ taken, taken <+: items → ∀ n place,
    (run name combine taken).places.find? n = some place →
      ∃ hlt : place < (run name combine taken).items.length,
        name (run name combine taken).items[place] = n

theorem mem_names_iff_place (hname : ∀ a b, name (combine a b) = name a) (items : List α)
    (n : String) :
    n ∈ items.map name ↔ ∃ place, (run name combine items).places.find? n = some place := by
  rw [← Option.isSome_iff_exists, placed_run hname items n, List.isSome_idxOf?]
  exact ((firstSeen_byName hname items).mem_iff n).symm

theorem groupsStably_byName (hname : ∀ a b, name (combine a b) = name a) (items : List α) :
    GroupsStably name combine items where
  firstSeen := firstSeen_byName hname items
  folded _ hx := exists_folded_of_mem_byName hname hx
  met taken _ n := mem_names_iff_place hname taken n
  placed taken _ _ _ hplace := (placed_run hname taken).exists_item hplace

def pooled (a b : String × List Nat) : String × List Nat := (a.1, a.2 ++ b.2)

theorem groupsStably_byName_interleaved :
    (∀ a b, (pooled a b).1 = a.1) ∧
      byName Prod.fst pooled [("b", [1]), ("a", [2]), ("b", [3])] = [("b", [1, 3]), ("a", [2])] ∧
      GroupsStably Prod.fst pooled [("b", [1]), ("a", [2]), ("b", [3])] := by
  have hname : ∀ a b, (pooled a b).1 = a.1 := fun _ _ => rfl
  exact ⟨hname, by decide, groupsStably_byName hname _⟩

end ByName

end EntityGraph.Merge
