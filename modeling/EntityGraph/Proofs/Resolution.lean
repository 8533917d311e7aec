import EntityGraph.Proofs.Cuts
import EntityGraph.Proofs.NameIndex

namespace EntityGraph

namespace NameIndex

variable {files xs ys : List ScannedFile} {text name : String} {d : Declaration}

def IsFullName (files : List ScannedFile) (name : String) : Prop :=
  ∃ d ∈ scanOrder files, d.fullName = name

def FirstOfName (files : List ScannedFile) (d : Declaration) : Prop :=
  ∃ before after, scanOrder files = before ++ d :: after ∧ ∀ e ∈ before, e.shortName ≠ d.shortName

def IsWrittenOut (files : List ScannedFile) (text : String) : Prop :=
  '.' ∈ unaliased text ∧ IsFullName files (String.ofList (unaliased text))

inductive StandsFor (files : List ScannedFile) (text : String) : String → Prop
  | fullName (hplain : '<' ∉ Text.trim text.toList) (hfull : IsWrittenOut files text) :
      StandsFor files text (String.ofList (unaliased text))
  | shortName {d : Declaration} (hplain : '<' ∉ Text.trim text.toList)
      (hother : ¬IsWrittenOut files text)
      (hshort : d.shortName = String.ofList (TypeName.short (unaliased text)))
      (hne : d.shortName ≠ "") (hfirst : FirstOfName files d) : StandsFor files text d.fullName

/-- Neither blanks nor an alias nor type arguments keep a text from being read as this name. -/
structure IsPlain (name : String) : Prop where
  dotted : '.' ∈ name.toList
  bare : '<' ∉ name.toList
  trimmed : Text.trim name.toList = name.toList
  unaliased : ¬"global::".toList <+: name.toList

structure Resolves (files : List ScannedFile) (index : NameIndex) : Prop where
  stands : ∀ text name, index.resolve text = some name ↔ StandsFor files text name
  declared : ∀ text name, index.resolve text = some name → IsFullName files name
  itself : ∀ name, IsFullName files name → IsPlain name →
    index.resolve name = some name ∧ index.resolve ("global::" ++ name) = some name

structure IsNewlyWrittenOut (xs ys : List ScannedFile) (text : String) : Prop where
  later : IsWrittenOut ys text
  new : ¬IsWrittenOut xs text

structure KeepsBindings (xs ys : List ScannedFile) (index all : NameIndex) : Prop where
  kept : ∀ text name, index.resolve text = some name → ¬IsNewlyWrittenOut xs ys text →
    all.resolve text = some name
  moved : ∀ text name, index.resolve text = some name → IsNewlyWrittenOut xs ys text →
    all.resolve text = some (String.ofList (unaliased text))
  found : ∀ text name, index.resolve text = none → all.resolve text = some name →
    IsFullName ys name

theorem mem_fullNames_build_iff : name ∈ (build files).fullNames ↔ IsFullName files name := by
  rw [mem_fullNames_build, List.mem_map]
  rfl

theorem FirstOfName.isFullName (h : FirstOfName files d) : IsFullName files d.fullName := by
  obtain ⟨before, after, hscan, -⟩ := h
  exact ⟨d, by simp [hscan], rfl⟩

theorem find?_names_build_eq_some_iff {short : String} :
    (build files).names.find? short = some name ↔
      ∃ d, d.shortName = short ∧ FirstOfName files d ∧ d.fullName = name := by
  rw [find?_names_build, Option.map_eq_some_iff]
  constructor
  · rintro ⟨d, hd, rfl⟩
    obtain ⟨hshort, before, after, hscan, hbefore⟩ := List.find?_eq_some_iff_append.mp hd
    have hshort : d.shortName = short := of_decide_eq_true hshort
    refine ⟨d, hshort, ⟨before, after, hscan, ?_⟩, rfl⟩
    intro e he
    rw [hshort]
    simpa using hbefore e he
  · rintro ⟨d, rfl, ⟨before, after, hscan, hbefore⟩, rfl⟩
    refine ⟨d, List.find?_eq_some_iff_append.mpr ⟨by simp, before, after, hscan, ?_⟩, rfl⟩
    intro e he
    simpa using hbefore e he

theorem isWrittenOut_iff :
    IsWrittenOut files text ↔
      '.' ∈ unaliased text ∧ String.ofList (unaliased text) ∈ (build files).fullNames := by
  rw [mem_fullNames_build_iff]
  rfl

theorem resolve_build_eq_some_iff :
    (build files).resolve text = some name ↔ StandsFor files text name := by
  simp only [resolve]
  constructor
  · intro h
    split at h
    · cases h
    · rename_i hplain
      split at h
      · rename_i hfull
        cases h
        exact .fullName hplain (isWrittenOut_iff.mpr hfull)
      · rename_i hother
        split at h
        · cases h
        · rename_i hempty
          obtain ⟨d, hshort, hfirst, rfl⟩ := find?_names_build_eq_some_iff.mp h
          refine .shortName hplain (mt isWrittenOut_iff.mp hother) hshort ?_ hfirst
          rwa [hshort, Ne, String.ofList_eq_empty_iff, ← List.isEmpty_iff]
  · intro h
    cases h with
    | fullName hplain hfull => rw [if_neg hplain, if_pos (isWrittenOut_iff.mp hfull)]
    | shortName hplain hother hshort hne hfirst =>
        have hempty : ¬(TypeName.short (unaliased text)).isEmpty = true := by
          rwa [hshort, Ne, String.ofList_eq_empty_iff, ← List.isEmpty_iff] at hne
        rw [if_neg hplain, if_neg (mt isWrittenOut_iff.mpr hother), if_neg hempty]
        exact find?_names_build_eq_some_iff.mpr ⟨_, hshort, hfirst, rfl⟩

theorem StandsFor.isFullName (h : StandsFor files text name) : IsFullName files name := by
  cases h with
  | fullName _ hfull => exact hfull.2
  | shortName _ _ _ _ hfirst => exact hfirst.isFullName

section Plain

theorem unaliased_of_isPlain (h : IsPlain name) : unaliased name = name.toList := by
  have hnone : Text.stripStart? "global::".toList name.toList = none := by
    rw [Option.eq_none_iff_forall_ne_some]
    intro rest hrest
    exact h.unaliased ⟨rest, (Text.stripStart?_eq_some_iff.mp hrest).symm⟩
  rw [unaliased, h.trimmed]
  simp only [hnone, Option.getD_none]

theorem trim_aliased (h : IsPlain name) :
    Text.trim ("global::" ++ name).toList = "global::".toList ++ name.toList := by
  have hne : name.toList ≠ [] := by
    intro hnil
    have hdot := h.dotted
    rw [hnil] at hdot
    cases hdot
  have hstart : ∀ c ∈ "global::".toList.head?, Text.isBlank c = false := by
    intro c hc
    obtain rfl : 'g' = c := Option.some.inj hc
    rfl
  rw [String.toList_append]
  exact Text.trimBy_append (by decide) hstart hne h.trimmed

theorem unaliased_aliased (h : IsPlain name) : unaliased ("global::" ++ name) = name.toList := by
  have hstrip : Text.stripStart? "global::".toList ("global::".toList ++ name.toList) =
      some name.toList := Text.stripStart?_eq_some_iff.mpr rfl
  rw [unaliased, trim_aliased h]
  simp only [hstrip, Option.getD_some]

theorem standsFor_of_unaliased (hplain : '<' ∉ Text.trim text.toList)
    (hname : unaliased text = name.toList) (hdot : '.' ∈ name.toList)
    (hfull : IsFullName files name) : StandsFor files text name := by
  have hwritten : String.ofList (unaliased text) = name := by rw [hname, String.ofList_toList]
  rw [← hwritten]
  exact .fullName hplain ⟨hname ▸ hdot, hwritten.symm ▸ hfull⟩

end Plain

theorem resolves_build (files : List ScannedFile) : Resolves files (build files) where
  stands _ _ := resolve_build_eq_some_iff
  declared _ _ h := (resolve_build_eq_some_iff.mp h).isFullName
  itself name hfull h := by
    constructor
    · have hbare : '<' ∉ Text.trim name.toList := by rw [h.trimmed]; exact h.bare
      exact resolve_build_eq_some_iff.mpr
        (standsFor_of_unaliased hbare (unaliased_of_isPlain h) h.dotted hfull)
    · have hbare : '<' ∉ Text.trim ("global::" ++ name).toList := by
        rw [trim_aliased h, List.mem_append, not_or]
        exact ⟨by decide, h.bare⟩
      exact resolve_build_eq_some_iff.mpr
        (standsFor_of_unaliased hbare (unaliased_aliased h) h.dotted hfull)

section Append

theorem scanOrder_append (xs ys : List ScannedFile) :
    scanOrder (xs ++ ys) = scanOrder xs ++ scanOrder ys :=
  List.flatMap_append

theorem isFullName_append : IsFullName (xs ++ ys) name ↔ IsFullName xs name ∨ IsFullName ys name := by
  unfold IsFullName
  simp only [scanOrder_append, List.mem_append, or_and_right, exists_or]

theorem isWrittenOut_append :
    IsWrittenOut (xs ++ ys) text ↔ IsWrittenOut xs text ∨ IsWrittenOut ys text := by
  unfold IsWrittenOut
  rw [isFullName_append, and_or_left]

theorem FirstOfName.append (h : FirstOfName xs d) (ys : List ScannedFile) :
    FirstOfName (xs ++ ys) d := by
  obtain ⟨before, after, hscan, hbefore⟩ := h
  exact ⟨before, after ++ scanOrder ys, by simp [scanOrder_append, hscan], hbefore⟩

theorem FirstOfName.of_append (h : FirstOfName (xs ++ ys) d) :
    FirstOfName xs d ∨ d ∈ scanOrder ys := by
  obtain ⟨before, after, hscan, hbefore⟩ := h
  rw [scanOrder_append] at hscan
  rcases List.append_eq_append_iff.mp hscan with ⟨between, -, hys⟩ | ⟨rest, hxs, hafter⟩
  · exact .inr (by simp [hys])
  · cases rest with
    | nil =>
        rw [List.nil_append] at hafter
        exact .inr (by simp [← hafter])
    | cons e rest =>
        obtain ⟨rfl, -⟩ := List.cons.inj hafter
        exact .inl ⟨before, rest, hxs, hbefore⟩

theorem StandsFor.append (h : StandsFor xs text name) (hnew : ¬IsNewlyWrittenOut xs ys text) :
    StandsFor (xs ++ ys) text name := by
  cases h with
  | fullName hplain hfull => exact .fullName hplain (isWrittenOut_append.mpr (.inl hfull))
  | shortName hplain hother hshort hne hfirst =>
      refine .shortName hplain ?_ hshort hne (hfirst.append ys)
      intro hwritten
      rcases isWrittenOut_append.mp hwritten with hxs | hys
      · exact hother hxs
      · exact hnew ⟨hys, hother⟩

theorem StandsFor.plain (h : StandsFor files text name) : '<' ∉ Text.trim text.toList := by
  cases h with
  | fullName hplain _ => exact hplain
  | shortName hplain _ _ _ _ => exact hplain

theorem StandsFor.of_append (h : StandsFor (xs ++ ys) text name)
    (hnone : ∀ other, ¬StandsFor xs text other) : IsFullName ys name := by
  cases h with
  | fullName hplain hfull =>
      rcases isWrittenOut_append.mp hfull with hxs | hys
      · exact absurd (.fullName hplain hxs) (hnone _)
      · exact hys.2
  | @shortName d hplain hother hshort hne hfirst =>
      rcases hfirst.of_append with hxs | hys
      · have hother : ¬IsWrittenOut xs text :=
          fun hwritten => hother (isWrittenOut_append.mpr (.inl hwritten))
        exact absurd (.shortName hplain hother hshort hne hxs) (hnone _)
      · exact ⟨d, hys, rfl⟩

end Append

theorem keepsBindings_build_append (xs ys : List ScannedFile) :
    KeepsBindings xs ys (build xs) (build (xs ++ ys)) where
  kept _ _ h hnew := resolve_build_eq_some_iff.mpr ((resolve_build_eq_some_iff.mp h).append hnew)
  moved _ _ h hnew :=
    resolve_build_eq_some_iff.mpr
      (.fullName (resolve_build_eq_some_iff.mp h).plain (isWrittenOut_append.mpr (.inr hnew.later)))
  found text name hnone h := by
    refine (resolve_build_eq_some_iff.mp h).of_append ?_
    intro other hother
    rw [resolve_build_eq_some_iff.mpr hother] at hnone
    cases hnone

def declaring (shortName fullName : String) : ScannedFile :=
  ⟨⟨[]⟩, "", "", [⟨fullName, shortName, .classType, .empty, [], [], .empty⟩], false⟩

example :
    let old := declaring "Position" "Old.Position"
    let new := declaring "Position" "Game.Position"
    (build [old]).resolve "Game.Position" = some "Old.Position" ∧
      (build [old, new]).resolve "Game.Position" = some "Game.Position" ∧
      (build [old, new]).resolve "Position" = some "Old.Position" := by
  decide +kernel

end NameIndex

end EntityGraph
