import EntityGraph.Catalog
import EntityGraph.Proofs.Merge
import Mathlib.Data.List.Induction
import Mathlib.Data.List.Nodup
import Mathlib.Data.List.Sort

namespace EntityGraph.Catalog

variable {α β : Type}

@[simp] theorem find?_insert (c : Catalog α) (key other : String) (value : α) :
    (c.insert key value).find? other = if other = key then some value else c.find? other :=
  find?_upsert c key other _

theorem ofList_concat (l : List (String × α)) (e : String × α) :
    ofList (l ++ [e]) = (ofList l).insert e.1 e.2 := by
  simp [ofList]

theorem find?_ofList_map {name : β → String} (f : β → α) {l : List β} (h : (l.map name).Nodup)
    (key : String) :
    (ofList (l.map fun x => (name x, f x))).find? key = (l.find? (name · = key)).map f := by
  induction l using List.reverseRecOn with
  | nil => rfl
  | append_singleton l x ih =>
      rw [List.map_append, List.nodup_append] at h
      obtain ⟨hl, -, hx⟩ := h
      rw [List.map_append, List.map_singleton, ofList_concat, find?_insert, ih hl,
        List.find?_append]
      by_cases hkey : name x = key
      · have hnone : l.find? (name · = key) = none := by
          rw [List.find?_eq_none]
          intro y hy hyk
          have hyk : name y = key := by simpa using hyk
          exact hx (name y) (List.mem_map_of_mem hy) (name x) (by simp) (hyk.trans hkey.symm)
        simp [hkey, hnone]
      · simp [Ne.symm hkey, hkey]

theorem ofListFirst_concat (l : List (String × α)) (e : String × α) :
    ofListFirst (l ++ [e]) = (ofListFirst l).insertNew e.1 e.2 := by
  simp [ofListFirst]

theorem find?_insertNew (c : Catalog α) (key other : String) (value : α) :
    (c.insertNew key value).find? other =
      if other = key then some ((c.find? key).getD value) else c.find? other :=
  find?_upsert c key other _

theorem find?_ofListFirst_map (name : β → String) (f : β → α) (l : List β) (key : String) :
    (ofListFirst (l.map fun x => (name x, f x))).find? key = (l.find? (name · = key)).map f := by
  induction l using List.reverseRecOn with
  | nil => rfl
  | append_singleton l x ih =>
      rw [List.map_append, List.map_singleton, ofListFirst_concat, find?_insertNew,
        List.find?_append]
      by_cases hkey : key = name x
      · subst hkey
        rw [if_pos rfl, ih]
        cases l.find? (name · = name x) <;> simp
      · rw [if_neg hkey, ih]
        simp [Ne.symm hkey]

theorem eq_of_sorted_of_mem_iff {γ : Type} (key : γ → String) {l m : List γ}
    (hl : l.Pairwise fun a b => key a < key b) (hm : m.Pairwise fun a b => key a < key b)
    (h : ∀ x, x ∈ l ↔ x ∈ m) : l = m := by
  have hirrefl : Std.Irrefl fun a b : γ => key a < key b := ⟨fun a => String.lt_irrefl (key a)⟩
  have hantisymm : Std.Antisymm fun a b : γ => key a < key b :=
    ⟨fun _ _ hab hba => absurd (String.lt_trans hab hba) (String.lt_irrefl _)⟩
  exact hl.eq_of_mem_iff hm h

theorem sorted_keys (c : Catalog α) : c.keys.Pairwise (· < ·) := by
  rw [keys, List.pairwise_map]
  exact c.sorted

theorem nodup_keys (c : Catalog α) : c.keys.Nodup := by
  refine c.sorted_keys.imp ?_
  rintro a b hab rfl
  exact String.lt_irrefl a hab

theorem findEntry_eq_find? (key : String) (l : List (String × α)) :
    findEntry key l = (l.find? (·.1 = key)).map (·.2) := by
  induction l with
  | nil => rfl
  | cons e l ih =>
      by_cases h : e.1 = key
      · simp [findEntry, h]
      · simp [findEntry, h, ih]

theorem find?_eq_some_iff {c : Catalog α} {key : String} {value : α} :
    c.find? key = some value ↔ (key, value) ∈ c.entries := by
  rw [find?, findEntry_eq_find?, Option.map_eq_some_iff]
  constructor
  · rintro ⟨e, he, rfl⟩
    have hkey : e.1 = key := by simpa using List.find?_some he
    exact hkey ▸ List.mem_of_find?_eq_some he
  · intro hmem
    have hfound := Merge.find?_eq_some_of_nodup c.nodup_keys hmem
    exact ⟨(key, value), hfound, rfl⟩

theorem mem_keys_iff {c : Catalog α} {key : String} :
    key ∈ c.keys ↔ c.contains key = true := by
  rw [contains, Option.isSome_iff_exists, keys, List.mem_map]
  constructor
  · rintro ⟨e, he, rfl⟩
    exact ⟨e.2, find?_eq_some_iff.mpr he⟩
  · rintro ⟨value, hvalue⟩
    exact ⟨(key, value), find?_eq_some_iff.mp hvalue, rfl⟩

theorem mem_keys_ofList_map {name : β → String} (f : β → α) {l : List β} (h : (l.map name).Nodup)
    (key : String) : key ∈ (ofList (l.map fun x => (name x, f x))).keys ↔ key ∈ l.map name := by
  rw [mem_keys_iff, contains, find?_ofList_map f h, Option.isSome_map, List.find?_isSome,
    List.mem_map]
  simp

theorem mem_of_find?_ofList {l : List (String × α)} {key : String} {value : α}
    (h : (ofList l).find? key = some value) : (key, value) ∈ l := by
  induction l using List.reverseRecOn with
  | nil => cases h
  | append_singleton l e ih =>
      rw [ofList_concat, find?_insert] at h
      split at h
      · rename_i hkey
        cases h
        exact hkey ▸ List.mem_append_right l List.mem_cons_self
      · exact List.mem_append_left [e] (ih h)

theorem exists_mem_of_mem_keys_ofList {l : List (String × α)} {key : String}
    (h : key ∈ (ofList l).keys) : ∃ e ∈ l, e.1 = key := by
  rw [mem_keys_iff, contains, Option.isSome_iff_exists] at h
  obtain ⟨value, hvalue⟩ := h
  exact ⟨(key, value), mem_of_find?_ofList hvalue, rfl⟩

theorem mem_keys_ofList {l : List (String × α)} {key : String} :
    key ∈ (ofList l).keys ↔ ∃ e ∈ l, e.1 = key := by
  refine ⟨exists_mem_of_mem_keys_ofList, ?_⟩
  intro h
  rw [mem_keys_iff, contains]
  induction l using List.reverseRecOn with
  | nil => simp at h
  | append_singleton l e ih =>
      rw [ofList_concat, find?_insert]
      split
      · rfl
      · rename_i hkey
        obtain ⟨e', he', rfl⟩ := h
        rcases List.mem_append.mp he' with hl | he'
        · exact ih ⟨e', hl, rfl⟩
        · obtain rfl := List.mem_singleton.mp he'
          exact absurd rfl hkey

theorem ext_find? {c d : Catalog α} (h : ∀ key, c.find? key = d.find? key) : c = d := by
  apply ext
  refine eq_of_sorted_of_mem_iff Prod.fst c.sorted d.sorted ?_
  rintro ⟨key, value⟩
  rw [← find?_eq_some_iff, ← find?_eq_some_iff, h]

theorem keys_congr {c : Catalog α} {d : Catalog β}
    (h : ∀ key, key ∈ c.keys ↔ key ∈ d.keys) : c.keys = d.keys :=
  eq_of_sorted_of_mem_iff id c.sorted_keys d.sorted_keys h

theorem entries_ofList {l : List (String × α)} (h : l.Pairwise fun a b => a.1 < b.1) :
    (ofList l).entries = l := by
  have hsame : ofList l = ⟨l, h⟩ := by
    apply ext_find?
    intro key
    have hnodup : (l.map (·.1)).Nodup := nodup_keys ⟨l, h⟩
    have hfind : (ofList (l.map id)).find? key = (l.find? (·.1 = key)).map (·.2) :=
      find?_ofList_map (·.2) hnodup key
    rw [List.map_id] at hfind
    rw [hfind, find?, findEntry_eq_find?]
  rw [hsame]

theorem ofList_entries (c : Catalog α) : ofList c.entries = c :=
  ext (entries_ofList c.sorted)

def restrict (c : Catalog α) (keep : String → Bool) : Catalog α :=
  ⟨c.entries.filter (keep ·.1), c.sorted.filter _⟩

theorem find?_restrict (c : Catalog α) (keep : String → Bool) (key : String) :
    (c.restrict keep).find? key = if keep key then c.find? key else none := by
  have hfilter : (c.entries.filter (keep ·.1)).find? (·.1 = key) =
      if keep key then c.entries.find? (·.1 = key) else none :=
    Merge.find?_filter_name keep c.entries key
  rw [find?, find?, restrict, findEntry_eq_find?, findEntry_eq_find?, hfilter]
  split <;> rfl

def mapValues (f : α → β) (c : Catalog α) : Catalog β :=
  ⟨c.entries.map fun e => (e.1, f e.2), by simpa [List.pairwise_map] using c.sorted⟩

theorem find?_mapValues (f : α → β) (c : Catalog α) (key : String) :
    (c.mapValues f).find? key = (c.find? key).map f := by
  rw [find?, find?, mapValues, findEntry_eq_find?, findEntry_eq_find?, List.find?_map]
  simp only [Option.map_map]
  rfl

end EntityGraph.Catalog
