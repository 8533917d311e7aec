import EntityGraph.Proofs.Catalog
import EntityGraph.Proofs.Utf8
import EntityGraph.Query

namespace EntityGraph

open Text

namespace Query

variable {α : Type} [Searchable α] {c : Catalog α} {term key key' : String} {e e' : α}

def SameIgnoringCase (s t : String) : Prop := lowercase s.toList = lowercase t.toList

/-- The term names the entry at this key, and none at a key whose bytes come before. -/
structure FirstNamed (c : Catalog α) (term key : String) (e : α) : Prop where
  find : c.find? key = some e
  same : SameIgnoringCase (Searchable.name e) term
  first : ∀ key' e', c.find? key' = some e' → SameIgnoringCase (Searchable.name e') term →
    key' ≠ key → Utf8.ofString key < Utf8.ofString key'

theorem FirstNamed.unique (h : FirstNamed c term key e) (h' : FirstNamed c term key' e') :
    key = key' ∧ e = e' := by
  have hkey : key = key' := by
    by_contra hne
    have hlt := h.first key' e' h'.find h'.same (Ne.symm hne)
    exact List.lt_asymm hlt (h'.first key e h.find h.same hne)
  subst hkey
  exact ⟨rfl, Option.some.inj (h.find.symm.trans h'.find)⟩

theorem exactMatch_of_ne (hterm : term ≠ "") (c : Catalog α) :
    exactMatch c term =
      (c.entries.find? fun x => lowercase (Searchable.name x.2).toList == lowercase term.toList).map
        (·.2) := by
  rw [exactMatch, if_neg (by simpa using hterm), Catalog.values, List.find?_map]
  rfl

theorem exactMatch_eq_none_iff :
    exactMatch c term = none ↔
      term = "" ∨ ∀ key e, c.find? key = some e → ¬SameIgnoringCase (Searchable.name e) term := by
  by_cases hterm : term = ""
  · simp [exactMatch, hterm]
  rw [exactMatch_of_ne hterm, Option.map_eq_none_iff, List.find?_eq_none, or_iff_right hterm]
  constructor
  · intro h key e hfind hsame
    exact h (key, e) (Catalog.find?_eq_some_iff.mp hfind) (beq_iff_eq.mpr hsame)
  · rintro h ⟨key, e⟩ hmem hsame
    exact h key e (Catalog.find?_eq_some_iff.mpr hmem) (beq_iff_eq.mp hsame)

theorem exists_firstNamed (h : exactMatch c term = some e) :
    term ≠ "" ∧ ∃ key, FirstNamed c term key e := by
  have hterm : term ≠ "" := by
    rintro rfl
    cases h
  rw [exactMatch_of_ne hterm, Option.map_eq_some_iff] at h
  obtain ⟨⟨key, e⟩, hfound, rfl⟩ := h
  obtain ⟨hsame, before, after, hentries, hbefore⟩ := List.find?_eq_some_iff_append.mp hfound
  have hsorted := c.sorted
  rw [hentries, List.pairwise_append, List.pairwise_cons] at hsorted
  refine ⟨hterm, key, ?_, beq_iff_eq.mp hsame, ?_⟩
  · rw [Catalog.find?_eq_some_iff, hentries]
    exact List.mem_append_right before List.mem_cons_self
  · intro key' e' hfind hsame' hne
    rw [Catalog.find?_eq_some_iff, hentries, List.mem_append, List.mem_cons] at hfind
    rcases hfind with hmem | hself | hmem
    · have hother := hbefore (key', e') hmem
      rw [Bool.not_eq_true', beq_eq_false_iff_ne] at hother
      exact absurd hsame' hother
    · exact absurd (Prod.mk.inj hself).1 hne
    · exact Utf8.ofString_lt_ofString (hsorted.2.1.1 (key', e') hmem)

theorem exactMatch_eq_some_iff :
    exactMatch c term = some e ↔ term ≠ "" ∧ ∃ key, FirstNamed c term key e := by
  refine ⟨exists_firstNamed, ?_⟩
  rintro ⟨hterm, key, hfirst⟩
  cases hmatch : exactMatch c term with
  | none =>
      rcases exactMatch_eq_none_iff.mp hmatch with h | h
      · exact absurd h hterm
      · exact absurd hfirst.same (h key e hfirst.find)
  | some e' =>
      obtain ⟨-, key', hfirst'⟩ := exists_firstNamed hmatch
      rw [(hfirst.unique hfirst').2]

theorem exists_exactMatch_of_find? (h : c.find? key = some e)
    (hsame : SameIgnoringCase (Searchable.name e) term) (hterm : term ≠ "") :
    ∃ e', exactMatch c term = some e' ∧ SameIgnoringCase (Searchable.name e') term := by
  cases hmatch : exactMatch c term with
  | none =>
      rcases exactMatch_eq_none_iff.mp hmatch with hnone | hnone
      · exact absurd hnone hterm
      · exact absurd hsame (hnone key e h)
  | some e' =>
      obtain ⟨-, key', hfirst⟩ := exists_firstNamed hmatch
      exact ⟨e', rfl, hfirst.same⟩

def Keyed (c : Catalog α) : Prop := ∀ key e, c.find? key = some e → key = Searchable.name e

theorem mem_filterKeys_of_same (h : c.find? key = some e)
    (hsame : SameIgnoringCase key term) : key ∈ filterKeys c term := by
  refine List.mem_map_of_mem (f := (·.1)) (a := (key, e)) (List.mem_filter.mpr ⟨?_, ?_⟩)
  · exact Catalog.find?_eq_some_iff.mp h
  · have hholds : holds (lowercase term.toList) key = true := by
      rw [holds, hsame]
      exact occursIn_iff.mpr List.infix_rfl
    rw [matchesAny, hholds, Bool.or_true, Bool.true_or]

theorem keyed_ofList {β : Type} (name : β → String) (node : β → α)
    (h : ∀ x, Searchable.name (node x) = name x) (l : List β) :
    Keyed (Catalog.ofList (l.map fun x => (name x, node x))) := by
  intro key e hfind
  obtain ⟨x, -, hx⟩ := List.mem_map.mp (Catalog.mem_of_find?_ofList hfind)
  obtain ⟨rfl, rfl⟩ := Prod.mk.inj hx
  exact (h x).symm

structure MatchesExactly (c : Catalog α) (term : String) : Prop where
  none_iff : exactMatch c term = none ↔
    term = "" ∨ ∀ key e, c.find? key = some e → ¬SameIgnoringCase (Searchable.name e) term
  some_iff : ∀ e, exactMatch c term = some e ↔ term ≠ "" ∧ ∃ key, FirstNamed c term key e

structure FindsNames (c : Catalog α) : Prop where
  kept : ∀ term key e, exactMatch c term = some e → c.find? key = some e →
    key ∈ filterKeys c term
  found : ∀ key e, c.find? key = some e → Searchable.name e ≠ "" →
    ∃ e', exactMatch c (Searchable.name e) = some e' ∧
      SameIgnoringCase (Searchable.name e') (Searchable.name e)

theorem matchesExactly (c : Catalog α) (term : String) : MatchesExactly c term :=
  ⟨exactMatch_eq_none_iff, fun _ => exactMatch_eq_some_iff⟩

theorem Keyed.findsNames (h : Keyed c) : FindsNames c where
  kept term key e hmatch hfind := by
    obtain ⟨-, key', hfirst⟩ := exists_firstNamed hmatch
    exact mem_filterKeys_of_same hfind (h key e hfind ▸ hfirst.same)
  found _ _ hfind hname := exists_exactMatch_of_find? hfind rfl hname

/-- Its own name leads to an entry, or to one whose name differs in case and comes before. -/
theorem Keyed.exactMatch_name_eq_iff (h : Keyed c) (hfind : c.find? key = some e)
    (hname : Searchable.name e ≠ "") :
    exactMatch c (Searchable.name e) = some e ↔
      ∀ key' ∈ c.keys, SameIgnoringCase key' key → key' ≠ key →
        Utf8.ofString key < Utf8.ofString key' := by
  rw [exactMatch_eq_some_iff, and_iff_right hname]
  have hkey := h key e hfind
  constructor
  · rintro ⟨found, hfirst⟩ key' hmem hsame hne
    obtain rfl : key = found := hkey.trans (h found e hfirst.find).symm
    obtain ⟨e', hfind'⟩ := Option.isSome_iff_exists.mp (Catalog.mem_keys_iff.mp hmem)
    refine hfirst.first key' e' hfind' ?_ hne
    rwa [← h key' e' hfind', ← hkey]
  · intro hfirst
    refine ⟨key, hfind, rfl, fun key' e' hfind' hsame hne => hfirst key' ?_ ?_ hne⟩
    · exact Catalog.mem_keys_iff.mpr (Option.isSome_iff_exists.mpr ⟨e', hfind'⟩)
    · rwa [h key' e' hfind', hkey]

end Query

namespace Graph

open Query

variable (components : List ComponentType) (systems : List SystemType) (b : Backlinks)

theorem keyed_components : Keyed (build components systems b).components :=
  keyed_ofList ComponentType.name (componentNode b) (fun _ => rfl) components

theorem keyed_systems : Keyed (build components systems b).systems :=
  keyed_ofList SystemType.name (systemNode b) (fun _ => rfl) systems

theorem exactMatch_complete :
    (∀ {α : Type} [Searchable α] (c : Catalog α) (term : String), MatchesExactly c term) ∧
      ∀ (components : List ComponentType) (systems : List SystemType) (b : Backlinks),
        FindsNames (build components systems b).components ∧
          FindsNames (build components systems b).systems :=
  ⟨matchesExactly, fun components systems b =>
    ⟨(keyed_components components systems b).findsNames,
      (keyed_systems components systems b).findsNames⟩⟩

example :
    (exactMatch (build [⟨"atlas", []⟩, ⟨"Atlas", []⟩] [] ⟨.empty, .empty⟩).components
      "atlas").map (·.name) = some "Atlas" := by
  decide +kernel

end Graph

end EntityGraph
