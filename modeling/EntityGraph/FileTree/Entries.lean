import EntityGraph.Path

namespace EntityGraph

/-- The names on the way to a place, from the innermost to the outermost. -/
abbrev Location := List Name

structure Rights where
  read : Bool
  write : Bool
  search : Bool
  deriving DecidableEq, Repr

inductive Entry where
  | directory (rights : Rights)
  | file (rights : Rights) (content : List UInt8)
  | link (target : Path)
  deriving DecidableEq, Repr

namespace Entry

def isDirectory : Entry → Bool
  | directory _ => true
  | _ => false

def isFile : Entry → Bool
  | file .. => true
  | _ => false

def isLink : Entry → Bool
  | link _ => true
  | _ => false

end Entry

namespace FileTree

abbrev Entries := List (Location × Entry)

abbrev Numbers := List (Location × Nat)

def lookup {α : Type} (loc : Location) : List (Location × α) → Option α
  | [] => none
  | (l, e) :: rest => if l = loc then some e else lookup loc rest

def isDirectoryAt (loc : Location) (entries : Entries) : Bool :=
  (lookup loc entries).any Entry.isDirectory

def nameLimit : Nat := 255

def isEntryName (n : Name) : Bool :=
  Path.isName n && n.length ≤ nameLimit

def Closed (entries : Entries) : Prop :=
  ∀ name loc, (lookup (name :: loc) entries).isSome →
    isEntryName name = true ∧ isDirectoryAt loc entries = true

/-- Only files have numbers, and names of the same number stand for the same file. -/
structure Shared (entries : Entries) (numbers : Numbers) : Prop where
  file : ∀ x n, lookup x numbers = some n →
    ∃ rights content, lookup x entries = some (.file rights content)
  same : ∀ x y n, lookup x numbers = some n → lookup y numbers = some n →
    lookup x entries = lookup y entries

theorem mem_of_lookup {α : Type} {loc : Location} {e : α} {entries : List (Location × α)}
    (h : lookup loc entries = some e) : (loc, e) ∈ entries := by
  induction entries with
  | nil => cases h
  | cons x xs ih =>
      rw [lookup] at h
      split at h
      · rename_i hx
        rw [Option.some.injEq] at h
        rw [← hx, ← h]
        exact List.mem_cons_self
      · exact List.mem_cons_of_mem x (ih h)

theorem lookup_filter {α : Type} (p : Location → Bool) (loc : Location)
    (entries : List (Location × α)) :
    lookup loc (entries.filter fun e => p e.1) = if p loc then lookup loc entries else none := by
  induction entries with
  | nil => simp [lookup]
  | cons hd tl ih =>
      obtain ⟨l, e⟩ := hd
      cases hp : p l with
      | true =>
          simp only [List.filter, hp, lookup]
          by_cases hl : l = loc
          · subst hl
            simp [hp]
          · simp [hl, ih]
      | false =>
          simp only [List.filter, hp, ih, lookup]
          by_cases hl : l = loc
          · subst hl
            simp [hp]
          · simp [hl]

def admits (entries : Entries) (loc : Location) (e : Entry) : Bool :=
  (match loc with
    | [] => true
    | name :: above => isEntryName name && isDirectoryAt above entries) &&
  (!isDirectoryAt loc entries || e.isDirectory)

def unset {α : Type} (loc : Location) (entries : List (Location × α)) : List (Location × α) :=
  entries.filter fun x => decide (x.1 ≠ loc)

theorem lookup_unset {α : Type} (loc other : Location) (entries : List (Location × α)) :
    lookup other (unset loc entries) = if other = loc then none else lookup other entries := by
  rw [unset, lookup_filter (fun l => decide (l ≠ loc))]
  by_cases h : other = loc <;> simp [h]

def set {α : Type} (loc : Location) (e : α) (entries : List (Location × α)) :
    List (Location × α) :=
  (loc, e) :: unset loc entries

theorem lookup_set {α : Type} (loc other : Location) (e : α) (entries : List (Location × α)) :
    lookup other (set loc e entries) = if other = loc then some e else lookup other entries := by
  rw [set, lookup, lookup_unset]
  by_cases h : other = loc
  · subst h
    simp
  · simp [h, Ne.symm h]

theorem isDirectoryAt_set {loc other : Location} {e : Entry} {entries : Entries}
    (h : admits entries loc e = true) (hd : isDirectoryAt other entries = true) :
    isDirectoryAt other (set loc e entries) = true := by
  unfold isDirectoryAt
  rw [lookup_set]
  split
  · rename_i heq
    subst heq
    simp only [admits, Bool.and_eq_true, Bool.or_eq_true, Bool.not_eq_true'] at h
    rcases h.2 with h | h
    · simp [h] at hd
    · simpa using h
  · exact hd

theorem closed_set {loc : Location} {e : Entry} {entries : Entries} (hc : Closed entries)
    (h : admits entries loc e = true) : Closed (set loc e entries) := by
  intro name above hs
  rw [lookup_set] at hs
  split at hs
  · rename_i heq
    subst heq
    have ha := h
    simp only [admits, Bool.and_eq_true] at ha
    exact ⟨ha.1.1, isDirectoryAt_set h ha.1.2⟩
  · have ha := hc name above hs
    exact ⟨ha.1, isDirectoryAt_set h ha.2⟩

def without {α : Type} (loc : Location) (entries : List (Location × α)) :
    List (Location × α) :=
  entries.filter fun x => !(loc.isSuffixOf x.1)

theorem lookup_without {α : Type} (loc other : Location) (entries : List (Location × α)) :
    lookup other (without loc entries) =
      if loc.isSuffixOf other then none else lookup other entries := by
  unfold without
  rw [lookup_filter (fun l => !(loc.isSuffixOf l))]
  cases loc.isSuffixOf other <;> simp

theorem lookup_without_of_leaf {α : Type} {loc : Location} {entries : List (Location × α)}
    (h : ∀ names, names ≠ [] → lookup (names ++ loc) entries = none) (x : Location) :
    lookup x (without loc entries) = if x = loc then none else lookup x entries := by
  rw [lookup_without]
  by_cases hsuffix : loc.isSuffixOf x = true
  · rw [if_pos hsuffix]
    split
    · rfl
    · rename_i hne
      obtain ⟨names, rfl⟩ := List.isSuffixOf_iff_suffix.mp hsuffix
      exact (h names fun hnil => hne (by simp [hnil])).symm
  · rw [if_neg hsuffix, if_neg]
    rintro rfl
    exact hsuffix (List.isSuffixOf_iff_suffix.mpr List.suffix_rfl)

theorem closed_without {loc : Location} {entries : Entries} (hc : Closed entries) :
    Closed (without loc entries) := by
  intro name above hs
  rw [lookup_without] at hs
  split at hs
  · simp at hs
  · rename_i hn
    have ha : loc.isSuffixOf above = false := by
      rw [Bool.eq_false_iff]
      intro h
      exact hn (List.isSuffixOf_iff_suffix.mpr
        ((List.isSuffixOf_iff_suffix.mp h).trans (List.suffix_cons name above)))
    refine ⟨(hc name above hs).1, ?_⟩
    unfold isDirectoryAt
    rw [lookup_without, ha]
    exact (hc name above hs).2

theorem Shared.mono {entries entries' : Entries} {numbers numbers' : Numbers}
    (h : Shared entries numbers)
    (hkept : ∀ x n, lookup x numbers' = some n →
      lookup x numbers = some n ∧ lookup x entries' = lookup x entries) :
    Shared entries' numbers' := by
  constructor
  · intro x n hx
    obtain ⟨hnumber, hentry⟩ := hkept x n hx
    rw [hentry]
    exact h.file x n hnumber
  · intro x y n hx hy
    obtain ⟨hnumber, hentry⟩ := hkept x n hx
    obtain ⟨hnumber', hentry'⟩ := hkept y n hy
    rw [hentry, hentry']
    exact h.same x y n hnumber hnumber'

theorem shared_set {loc : Location} {e : Entry} {entries : Entries} {numbers : Numbers}
    (h : Shared entries numbers) : Shared (set loc e entries) (unset loc numbers) := by
  refine h.mono fun x n hx => ?_
  rw [lookup_unset] at hx
  split at hx
  · cases hx
  · rename_i hne
    exact ⟨hx, by rw [lookup_set, if_neg hne]⟩

theorem shared_without {loc : Location} {entries : Entries} {numbers : Numbers}
    (h : Shared entries numbers) : Shared (without loc entries) (without loc numbers) := by
  refine h.mono fun x n hx => ?_
  rw [lookup_without] at hx
  split at hx
  · cases hx
  · rename_i hne
    exact ⟨hx, by rw [lookup_without, if_neg hne]⟩

def sameNumber (numbers : Numbers) (x y : Location) : Bool :=
  x = y || ((lookup x numbers).isSome && lookup x numbers == lookup y numbers)

theorem sameNumber_iff {numbers : Numbers} {x y : Location} : sameNumber numbers x y = true ↔
    x = y ∨ ∃ n, lookup x numbers = some n ∧ lookup y numbers = some n := by
  rw [sameNumber, Bool.or_eq_true, decide_eq_true_eq, Bool.and_eq_true, beq_iff_eq,
    Option.isSome_iff_exists]
  grind

/-- All names of a file change with it. -/
def changed (numbers : Numbers) (loc : Location) (rights : Rights) (content : List UInt8)
    (x : Location) (e : Entry) : Entry :=
  if sameNumber numbers loc x && e.isFile then .file rights content else e

theorem lookup_map (f : Location → Entry → Entry) (x : Location) (entries : Entries) :
    lookup x (entries.map fun y => (y.1, f y.1 y.2)) = (lookup x entries).map (f x) := by
  induction entries with
  | nil => rfl
  | cons hd tl ih =>
      obtain ⟨l, e⟩ := hd
      simp only [List.map_cons, lookup]
      split
      · rename_i hl
        rw [hl]
        rfl
      · exact ih

theorem isDirectory_changed (numbers : Numbers) (loc : Location) (rights : Rights)
    (content : List UInt8) (x : Location) (e : Entry) :
    (changed numbers loc rights content x e).isDirectory = e.isDirectory := by
  unfold changed
  cases e with
  | file r old => split <;> rfl
  | directory r => simp [Entry.isFile]
  | link target => simp [Entry.isFile]

theorem closed_changed {numbers : Numbers} {loc : Location} {rights : Rights}
    {content : List UInt8} {entries : Entries} (hc : Closed entries) :
    Closed (entries.map fun x => (x.1, changed numbers loc rights content x.1 x.2)) := by
  intro name above hs
  rw [lookup_map, Option.isSome_map] at hs
  obtain ⟨hname, habove⟩ := hc name above hs
  refine ⟨hname, ?_⟩
  rw [isDirectoryAt, lookup_map, Option.any_map]
  unfold isDirectoryAt at habove
  simpa only [Function.comp_def, isDirectory_changed] using habove

theorem shared_changed {numbers : Numbers} {loc : Location} {rights : Rights}
    {content : List UInt8} {entries : Entries} (h : Shared entries numbers) :
    Shared (entries.map fun x => (x.1, changed numbers loc rights content x.1 x.2)) numbers := by
  have hlookup : ∀ x n, lookup x numbers = some n →
      lookup x (entries.map fun x => (x.1, changed numbers loc rights content x.1 x.2)) =
        if sameNumber numbers loc x then some (.file rights content) else lookup x entries := by
    intro x n hx
    obtain ⟨r, old, hfile⟩ := h.file x n hx
    rw [lookup_map, hfile, Option.map_some, changed]
    cases sameNumber numbers loc x <;> rfl
  constructor
  · intro x n hx
    rw [hlookup x n hx]
    split
    · exact ⟨rights, content, rfl⟩
    · exact h.file x n hx
  · intro x y n hx hy
    have hsame : sameNumber numbers loc x = sameNumber numbers loc y := by
      rw [Bool.eq_iff_iff, sameNumber_iff, sameNumber_iff]
      grind
    rw [hlookup x n hx, hlookup y n hy, hsame, h.same x y n hx hy]

def freshNumber (numbers : Numbers) : Nat :=
  (numbers.map (·.2)).foldr max 0 + 1

theorem lt_freshNumber {x : Location} {n : Nat} {numbers : Numbers}
    (h : lookup x numbers = some n) : n < freshNumber numbers := by
  unfold freshNumber
  induction numbers with
  | nil => cases h
  | cons hd tl ih =>
      rw [lookup] at h
      rw [List.map_cons, List.foldr_cons]
      split at h
      · rw [Option.some.injEq] at h
        omega
      · have hlt := ih h
        omega

def numberFor (numbers : Numbers) (loc : Location) : Nat :=
  (lookup loc numbers).getD (freshNumber numbers)

theorem lookup_of_numberFor {x loc : Location} {numbers : Numbers}
    (h : lookup x numbers = some (numberFor numbers loc)) :
    lookup loc numbers = some (numberFor numbers loc) := by
  unfold numberFor at h ⊢
  cases hloc : lookup loc numbers with
  | some n => rfl
  | none =>
      rw [hloc, Option.getD_none] at h
      exact absurd (lt_freshNumber h) (Nat.lt_irrefl _)

def shareNumber (here there : Location) (numbers : Numbers) : Numbers :=
  set there (numberFor numbers here) (set here (numberFor numbers here) numbers)

theorem lookup_shareNumber (here there x : Location) (numbers : Numbers) :
    lookup x (shareNumber here there numbers) =
      if x = there ∨ x = here then some (numberFor numbers here) else lookup x numbers := by
  rw [shareNumber, lookup_set, lookup_set]
  by_cases hthere : x = there <;> by_cases hhere : x = here <;> simp [hthere, hhere]

theorem shared_shareNumber {here there : Location} {rights : Rights} {content : List UInt8}
    {entries : Entries} {numbers : Numbers} (h : Shared entries numbers)
    (hhere : lookup here entries = some (.file rights content)) :
    Shared (set there (.file rights content) entries) (shareNumber here there numbers) := by
  have hnumbered : ∀ x n, lookup x (shareNumber here there numbers) = some n →
      lookup x (set there (.file rights content) entries) =
        if n = numberFor numbers here then some (.file rights content)
        else lookup x entries := by
    intro x n hx
    rw [lookup_shareNumber] at hx
    rw [lookup_set]
    by_cases hthere : x = there
    · rw [if_pos (.inl hthere), Option.some.injEq] at hx
      rw [if_pos hthere, if_pos hx.symm]
    rw [if_neg hthere]
    by_cases hx' : x = here
    · rw [if_pos (.inr hx'), Option.some.injEq] at hx
      rw [if_pos hx.symm, hx', hhere]
    rw [if_neg (by simp [hthere, hx'])] at hx
    split
    · rename_i hn
      subst hn
      rw [h.same x here _ hx (lookup_of_numberFor hx), hhere]
    · rfl
  have hold : ∀ x n, lookup x (shareNumber here there numbers) = some n →
      n ≠ numberFor numbers here → lookup x numbers = some n := by
    intro x n hx hn
    rw [lookup_shareNumber] at hx
    split at hx
    · exact absurd (Option.some.inj hx).symm hn
    · exact hx
  constructor
  · intro x n hx
    rw [hnumbered x n hx]
    split
    · exact ⟨rights, content, rfl⟩
    · rename_i hn
      exact h.file x n (hold x n hx hn)
  · intro x y n hx hy
    rw [hnumbered x n hx, hnumbered y n hy]
    split
    · rfl
    · rename_i hn
      exact h.same x y n (hold x n hx hn) (hold y n hy hn)

end FileTree

end EntityGraph
