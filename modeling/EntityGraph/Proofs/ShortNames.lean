import EntityGraph.Proofs.Catalog
import EntityGraph.Proofs.Cuts
import EntityGraph.Proofs.ScanOrder
import Mathlib.Data.List.Forall2
import Mathlib.Logic.Relation

namespace EntityGraph

namespace TypeName

open Text

variable {cs qualifier text : List Char}

structure IsShort (cs : List Char) : Prop where
  bare : '<' ∉ cs
  dotless : '.' ∉ cs
  unaliased : ¬[':', ':'] <:+: cs
  trimmed : EndsWithout isBlank cs

def beforeArguments (cs : List Char) : List Char :=
  cs.takeWhile (· ≠ '<')

def lastSegment (cs : List Char) : List Char :=
  lastPart ['.'] (lastPart [':', ':'] cs)

section Arguments

theorem notMem_beforeArguments (cs : List Char) : '<' ∉ beforeArguments cs := by
  intro hmem
  simpa using List.mem_takeWhile_imp hmem

theorem beforeArguments_append (h : '<' ∉ cs) (text : List Char) :
    beforeArguments (cs ++ text) = cs ++ beforeArguments text := by
  refine List.takeWhile_append_of_pos ?_
  rintro c hc
  rw [decide_eq_true_eq]
  rintro rfl
  exact h hc

theorem beforeArguments_of_bare (h : '<' ∉ cs) : beforeArguments cs = cs := by
  simpa [beforeArguments] using beforeArguments_append h []

theorem beforeArguments_applied (text arguments : List Char) :
    beforeArguments (text ++ '<' :: arguments) = beforeArguments text := by
  rw [beforeArguments, List.takeWhile_append]
  split
  · rename_i hlength
    have hall : beforeArguments text = text := (List.takeWhile_prefix _).eq_of_length hlength
    simp [hall]
  · rfl

theorem beforeArguments_prefix (cs : List Char) : beforeArguments cs <+: cs :=
  List.takeWhile_prefix _

theorem padded_beforeArguments_trim (text : List Char) :
    Padded isBlank (beforeArguments (trim text)) (beforeArguments text) := by
  have hplain : ∀ blanks : List Char, (∀ c ∈ blanks, isBlank c = true) → '<' ∉ blanks :=
    fun blanks hblanks hmem => absurd (hblanks '<' hmem) (by decide)
  obtain ⟨before, after, hbefore, hafter, htext⟩ := padded_trimBy isBlank text
  have hcut : beforeArguments text = before ++ beforeArguments (trim text ++ after) := by
    conv_lhs => rw [htext, List.append_assoc]
    exact beforeArguments_append (hplain before hbefore) _
  by_cases hbare : '<' ∈ trim text
  · obtain ⟨name, arguments, hname⟩ := List.append_of_mem hbare
    refine ⟨before, [], hbefore, by simp, ?_⟩
    rw [hcut, hname, List.append_assoc, List.cons_append, beforeArguments_applied,
      beforeArguments_applied, List.append_nil]
  · refine ⟨before, after, hbefore, hafter, ?_⟩
    rw [hcut, beforeArguments_append hbare, beforeArguments_of_bare hbare,
      beforeArguments_of_bare (hplain after hafter), List.append_assoc]

end Arguments

section Segment

theorem lastSegment_suffix (cs : List Char) : lastSegment cs <:+ lastPart [':', ':'] cs :=
  lastPart_suffix (by simp) _

theorem dotless_lastSegment (cs : List Char) : '.' ∉ lastSegment cs := by
  intro hmem
  exact not_infix_lastPart (by simp) (lastPart [':', ':'] cs) ((List.singleton_infix_iff '.' _).mpr hmem)

theorem unaliased_lastSegment (cs : List Char) : ¬[':', ':'] <:+: lastSegment cs :=
  fun hin => not_infix_lastPart (by simp) cs (hin.trans (lastSegment_suffix cs).isInfix)

theorem mem_of_mem_lastSegment {c : Char} (h : c ∈ lastSegment cs) : c ∈ cs :=
  (lastPart_suffix (by simp) cs).subset ((lastSegment_suffix cs).subset h)

theorem lastSegment_eq_self (hdotless : '.' ∉ cs) (hunaliased : ¬[':', ':'] <:+: cs) :
    lastSegment cs = cs := by
  rw [lastSegment, lastPart_eq_self hunaliased,
    lastPart_eq_self (mt (List.singleton_infix_iff '.' cs).mp hdotless)]

theorem padded_lastSegment {xs ys : List Char} (h : Padded isBlank xs ys) :
    Padded isBlank (lastSegment xs) (lastSegment ys) :=
  padded_lastPart (by simp) (by simp [isBlank]) (padded_lastPart (by simp) (by simp [isBlank]) h)

theorem lastSegment_qualified (qualifier text : List Char) :
    lastSegment (qualifier ++ '.' :: text) = lastSegment text := by
  by_cases h : [':', ':'] <:+: text
  · have happend := lastPart_append (by simp) h (qualifier ++ ['.'])
    rw [List.append_assoc, List.singleton_append] at happend
    rw [lastSegment, happend, lastSegment]
  · -- Whatever alias is cut off before the dot, the dot stays.
    have hcolons : '.' ∉ [':', ':'] := by decide
    obtain ⟨rest, hrest⟩ := exists_lastPart_append_cons (by simp) hcolons h qualifier
    rw [lastSegment, hrest, lastPart_singleton_append_cons, lastSegment, lastPart_eq_self h]

theorem lastSegment_aliased (qualifier : List Char) (h : text.head? ≠ some ':') :
    lastSegment (qualifier ++ ':' :: ':' :: text) = lastSegment text := by
  have hlast : lastPart [':', ':'] (qualifier ++ [':', ':'] ++ text) = lastPart [':', ':'] text := by
    by_cases hin : [':', ':'] <:+: text
    · exact lastPart_append (by simp) hin (qualifier ++ [':', ':'])
    · have hnone : ¬[':', ':'] <:+: ':' :: text := by
        rw [List.infix_cons_iff, not_or]
        refine ⟨?_, hin⟩
        rintro ⟨rest, hrest⟩
        obtain ⟨-, rfl⟩ := List.cons.inj hrest
        exact h rfl
      rw [lastPart_eq_self hin]
      exact lastPart_of_last (by simp) hnone
  rw [List.append_assoc] at hlast
  exact congrArg (lastPart ['.']) hlast

end Segment

section Short

theorem short_eq (text : List Char) : short text = trim (lastSegment (beforeArguments text)) :=
  -- What the first trimming takes away lies outside of both cuts, where the last one finds it.
  (trimBy_eq_of_padded (padded_lastSegment (padded_beforeArguments_trim text))).symm

theorem isShort_short (text : List Char) : IsShort (short text) := by
  rw [short_eq]
  have hkept : trim (lastSegment (beforeArguments text)) <:+: lastSegment (beforeArguments text) :=
    trimBy_infix isBlank _
  exact
    { bare := fun hmem =>
        notMem_beforeArguments text (mem_of_mem_lastSegment (hkept.subset hmem))
      dotless := fun hmem => dotless_lastSegment _ (hkept.subset hmem)
      unaliased := fun hin => unaliased_lastSegment _ (hin.trans hkept)
      trimmed := trimBy_eq_self_iff.mp (trimBy_trimBy isBlank _) }

theorem short_of_isShort (h : IsShort cs) : short cs = cs := by
  rw [short_eq, beforeArguments_of_bare h.bare, lastSegment_eq_self h.dotless h.unaliased]
  exact trimBy_eq_self_iff.mpr h.trimmed

theorem isShort_iff : IsShort cs ↔ short cs = cs :=
  ⟨short_of_isShort, fun h => h ▸ isShort_short cs⟩

instance : DecidablePred IsShort := fun _ => decidable_of_iff _ isShort_iff.symm

theorem short_applied (text arguments : List Char) :
    short (text ++ '<' :: arguments) = short text := by
  rw [short_eq, short_eq, beforeArguments_applied]

theorem short_qualified (h : '<' ∉ qualifier) (text : List Char) :
    short (qualifier ++ '.' :: text) = short text := by
  have hdot : '<' ∉ qualifier ++ ['.'] := by simpa using h
  have hcut := beforeArguments_append hdot text
  rw [List.append_assoc, List.append_assoc, List.singleton_append, List.singleton_append] at hcut
  rw [short_eq, short_eq, hcut, lastSegment_qualified]

theorem short_aliased (h : '<' ∉ qualifier) (hfirst : text.head? ≠ some ':') :
    short (qualifier ++ ':' :: ':' :: text) = short text := by
  have hcolons : '<' ∉ qualifier ++ [':', ':'] := by simpa using h
  have hcut := beforeArguments_append hcolons text
  rw [List.append_assoc, List.append_assoc] at hcut
  have hfirst' : (beforeArguments text).head? ≠ some ':' := by
    obtain ⟨rest, hrest⟩ := beforeArguments_prefix text
    intro hhead
    rw [← hrest, List.head?_append, hhead] at hfirst
    exact hfirst rfl
  rw [short_eq, short_eq, ← lastSegment_aliased qualifier hfirst']
  exact congrArg (trim ∘ lastSegment) hcut

end Short

end TypeName

variable {text decorated last : String} {qualifier bases : List String} {d : Declaration} {m : Marker}

/-- What may be put around a type name: namespaces, an alias, and type arguments. -/
inductive Decorates : String → String → Prop where
  | qualified (qualifier text : String) (h : '<' ∉ qualifier.toList) :
      Decorates text (qualifier ++ "." ++ text)
  | aliased (qualifier text : String) (h : '<' ∉ qualifier.toList)
      (hfirst : text.toList.head? ≠ some ':') : Decorates text (qualifier ++ "::" ++ text)
  | applied (text arguments : String) : Decorates text (text ++ "<" ++ arguments)

structure KeepsShortName (text : String) : Prop where
  short : TypeName.IsShort (shortTypeName text).toList
  itself : shortTypeName (shortTypeName text) = shortTypeName text
  decorated : ∀ other, Decorates text other → shortTypeName other = shortTypeName text

def Declaration.withBases (d : Declaration) (bases : List String) : Declaration :=
  { d with baseTypes := NameSet.ofList bases }

def classOf (bases : List String) : Declaration :=
  ⟨"A", "A", .classType, NameSet.ofList bases, [], [], .empty⟩

theorem isShort_shortTypeName (text : String) : TypeName.IsShort (shortTypeName text).toList := by
  rw [shortTypeName, String.toList_ofList]
  exact TypeName.isShort_short text.toList

theorem shortTypeName_of_isShort (h : TypeName.IsShort text.toList) : shortTypeName text = text := by
  rw [shortTypeName, TypeName.short_of_isShort h, String.ofList_toList]

theorem shortTypeName_applied (text arguments : String) :
    shortTypeName (text ++ "<" ++ arguments) = shortTypeName text := by
  have h : (text ++ "<" ++ arguments).toList = text.toList ++ '<' :: arguments.toList := by simp
  rw [shortTypeName, h, TypeName.short_applied, shortTypeName]

theorem shortTypeName_qualified {qualifier : String} (h : '<' ∉ qualifier.toList) (text : String) :
    shortTypeName (qualifier ++ "." ++ text) = shortTypeName text := by
  have hcs : (qualifier ++ "." ++ text).toList = qualifier.toList ++ '.' :: text.toList := by simp
  rw [shortTypeName, hcs, TypeName.short_qualified h, shortTypeName]

theorem Decorates.shortTypeName_eq (h : Decorates text decorated) :
    shortTypeName decorated = shortTypeName text := by
  cases h with
  | qualified qualifier text h => exact shortTypeName_qualified h text
  | aliased qualifier text h hfirst =>
      have hcs : (qualifier ++ "::" ++ text).toList =
          qualifier.toList ++ ':' :: ':' :: text.toList := by simp
      rw [shortTypeName, hcs, TypeName.short_aliased h hfirst, shortTypeName]
  | applied text arguments => exact shortTypeName_applied text arguments

theorem shortTypeName_eq_of_reflTransGen (h : Relation.ReflTransGen Decorates text decorated) :
    shortTypeName decorated = shortTypeName text := by
  induction h with
  | refl => rfl
  | tail _ hstep ih => exact hstep.shortTypeName_eq.trans ih

theorem implements_withBases_iff :
    (d.withBases bases).implements m = true ↔ ∃ base ∈ bases, shortTypeName base = m.name := by
  have hmem : ∀ base, base ∈ (d.withBases bases).baseTypes.toList ↔ base ∈ bases := by
    intro base
    rw [NameSet.toList, Declaration.withBases, NameSet.ofList, Catalog.mem_keys_ofList]
    simp
  rw [Declaration.implements_iff]
  simp only [hmem]

theorem map_shortTypeName_of_forall₂ {others : List String}
    (h : List.Forall₂ (Relation.ReflTransGen Decorates) bases others) :
    others.map shortTypeName = bases.map shortTypeName := by
  induction h with
  | nil => rfl
  | cons hbase _ ih =>
      rw [List.map_cons, List.map_cons, shortTypeName_eq_of_reflTransGen hbase, ih]

theorem keepsShortName_decorated :
    (∀ text, KeepsShortName text) ∧
      ∀ (d : Declaration) (m : Marker) (bases : List String),
        List.Forall₂ (Relation.ReflTransGen Decorates) d.baseTypes.toList bases →
          (d.withBases bases).implements m = d.implements m := by
  constructor
  · intro text
    exact
      { short := isShort_shortTypeName text
        itself := shortTypeName_of_isShort (isShort_shortTypeName text)
        decorated := fun _ h => h.shortTypeName_eq }
  · intro d m bases h
    have hmem : (∃ base ∈ bases, shortTypeName base = m.name) ↔
        ∃ base ∈ d.baseTypes.toList, shortTypeName base = m.name := by
      rw [← List.mem_map, ← List.mem_map, map_shortTypeName_of_forall₂ h]
    rw [Bool.eq_iff_iff, implements_withBases_iff, hmem, Declaration.implements_iff]

theorem keepsShortName_decorated_system :
    List.Forall₂ (Relation.ReflTransGen Decorates) (classOf ["GameSystemBase"]).baseTypes.toList
        ["global::Game.GameSystemBase<T>"] ∧
      ((classOf ["GameSystemBase"]).withBases ["global::Game.GameSystemBase<T>"]).implements .system =
        (classOf ["GameSystemBase"]).implements .system := by
  have happlied : Decorates "GameSystemBase" "GameSystemBase<T>" := .applied "GameSystemBase" "T>"
  have hqualified : Decorates "GameSystemBase<T>" "Game.GameSystemBase<T>" :=
    .qualified "Game" "GameSystemBase<T>" (by decide)
  have haliased : Decorates "Game.GameSystemBase<T>" "global::Game.GameSystemBase<T>" :=
    .aliased "global" "Game.GameSystemBase<T>" (by decide) (by decide)
  have hbases : List.Forall₂ (Relation.ReflTransGen Decorates)
      (classOf ["GameSystemBase"]).baseTypes.toList ["global::Game.GameSystemBase<T>"] :=
    .cons (((Relation.ReflTransGen.single happlied).tail hqualified).tail haliased) .nil
  exact ⟨hbases, keepsShortName_decorated.2 _ .system _ hbases⟩

theorem shortTypeName_dotted (h : ∀ s ∈ qualifier, '<' ∉ s.toList) (last : String) :
    shortTypeName (".".intercalate (qualifier ++ [last])) = shortTypeName last := by
  induction qualifier with
  | nil => simp
  | cons s qualifier ih =>
      have hrest := ih fun s' hs' => h s' (List.mem_cons_of_mem s hs')
      have hsplit : ".".intercalate (s :: qualifier ++ [last]) =
          s ++ "." ++ ".".intercalate (qualifier ++ [last]) := by
        cases qualifier with
        | nil => simp [String.intercalate_cons_cons]
        | cons s' qualifier =>
            rw [List.cons_append, List.cons_append, String.intercalate_cons_cons]
      rw [hsplit, shortTypeName_qualified (h s List.mem_cons_self), hrest]

def innerTypeName (outer : List String) (arguments name : String) : String :=
  ".".intercalate outer ++ "<" ++ arguments ++ ">." ++ name

/-- Such a base type makes a declaration implement the marker of that name, and no other. -/
def CountsBy (base name : String) : Prop :=
  ∀ (d : Declaration) (m : Marker) (bases : List String),
    (d.withBases (base :: bases)).implements m = true ↔
      name = m.name ∨ (d.withBases bases).implements m = true

theorem countsBy_shortTypeName (base : String) : CountsBy base (shortTypeName base) := by
  intro d m bases
  rw [implements_withBases_iff, implements_withBases_iff, List.exists_mem_cons_iff]

theorem countsBy_iff {base name : String} :
    CountsBy base name ↔ ∀ m : Marker, shortTypeName base = m.name ↔ name = m.name := by
  constructor
  · intro h m
    have halone := (h (classOf []) m []).symm.trans (countsBy_shortTypeName base (classOf []) m [])
    have hnone : ¬((classOf []).withBases []).implements m = true := by
      simp [implements_withBases_iff]
    rw [or_iff_left hnone, or_iff_left hnone] at halone
    exact halone.symm
  · intro h d m bases
    rw [countsBy_shortTypeName base d m bases, h m]

theorem countsBy_inner (qualifier : List String) (last arguments name : String)
    (h : ∀ s ∈ qualifier ++ [last], TypeName.IsShort s.toList) :
    CountsBy (innerTypeName (qualifier ++ [last]) arguments name) last ∧
      (CountsBy (innerTypeName (qualifier ++ [last]) arguments name) name ↔
        ∀ m : Marker, last = m.name ↔ name = m.name) := by
  have hshort : shortTypeName (innerTypeName (qualifier ++ [last]) arguments name) = last := by
    have hbare : ∀ s ∈ qualifier, '<' ∉ s.toList :=
      fun s hs => (h s (List.mem_append_left _ hs)).bare
    have happlied : innerTypeName (qualifier ++ [last]) arguments name =
        ".".intercalate (qualifier ++ [last]) ++ "<" ++ (arguments ++ ">." ++ name) := by
      simp only [innerTypeName, String.append_assoc]
    rw [happlied, shortTypeName_applied, shortTypeName_dotted hbare,
      shortTypeName_of_isShort (h last (by simp))]
  constructor
  · conv => arg 2; rw [← hshort]
    exact countsBy_shortTypeName _
  · rw [countsBy_iff, hshort]

theorem countsBy_inner_nested :
    (∀ s ∈ ["Game"] ++ ["GameSystemBase"], TypeName.IsShort s.toList) ∧
      CountsBy (innerTypeName (["Game"] ++ ["GameSystemBase"]) "Map<A.B, C>" "Helper")
        "GameSystemBase" ∧
      (CountsBy (innerTypeName (["Game"] ++ ["GameSystemBase"]) "Map<A.B, C>" "Helper") "Helper" ↔
        ∀ m : Marker, "GameSystemBase" = m.name ↔ "Helper" = m.name) := by
  have h : ∀ s ∈ ["Game"] ++ ["GameSystemBase"], TypeName.IsShort s.toList := by decide +kernel
  exact ⟨h, countsBy_inner ["Game"] "GameSystemBase" "Map<A.B, C>" "Helper" h⟩

/-- A class below `Outer<T>.GameSystemBase` is no system, and one below `GameSystemBase<T>.Helper`
is. -/
theorem not_countsBy_last_segment :
    ¬CountsBy (innerTypeName ["Outer"] "T" "GameSystemBase") "GameSystemBase" ∧
      ¬CountsBy (innerTypeName ["GameSystemBase"] "T" "Helper") "Helper" := by
  constructor
  · intro h
    exact absurd ((h (classOf []) .system []).mpr (.inl rfl)) (by decide +kernel)
  · intro h
    exact absurd ((h (classOf []) .system []).mp (by decide +kernel)) (by decide +kernel)

end EntityGraph
