import EntityGraph.Analysis
import EntityGraph.Proofs.PlainTree
import EntityGraph.Proofs.Trails
import Mathlib.Data.List.Sort

namespace EntityGraph

open FileTree Enumeration

section Names

variable {p q : Path} {n : Name} {extension : String}

theorem isSourceFile_congr (h : p.fileName? = q.fileName?) :
    p.isSourceFile extension = q.isSourceFile extension := by
  rw [Path.isSourceFile, Path.isSourceFile, Path.extension?, Path.extension?, h]

theorem fileName?_joinName (hn : Path.isName n = true) (p : Path) :
    (p.joinName n).fileName? = some n := by
  obtain ⟨hne, hslash, -, hdot, hup⟩ := Path.isName_iff.mp hn
  exact Path.fileName?_of_getLast? (Path.getLast?_steps_joinName hne hslash p) hdot hup

end Names

def NoSource (extension : String) (x : Location) : Prop :=
  ∀ p : Path, p.fileName? = x.head? → p.isSourceFile extension = false

/-- Where the trees differ there is a file that is no source, or a new directory. -/
structure SameSources (t t' : FileTree) (extension : String) : Prop where
  working : t'.working = t.working
  before : ∀ {x e}, t'.find? x ≠ t.find? x → t.find? x = some e →
    (∃ rights content, e = .file rights content) ∧ NoSource extension x
  after : ∀ {x e}, t'.find? x ≠ t.find? x → t'.find? x = some e →
    ((∃ rights content, e = .file rights content) ∧ NoSource extension x) ∨
      (t.find? x = none ∧ ∃ rights, e = .directory rights)

def LinksAgree (t t' : FileTree) (root : Path) : Prop :=
  ∀ names n loc target, (∀ m ∈ names, Path.isName m = true) →
    t.resolve (root.under names) = .ok loc → t.find? (n :: loc) = some (.link target) →
      AgreeOn (t.trail (root.under (names ++ [n]))) t t'

def sourcesOf (extension : String) (visits : List Visit) : List Path :=
  (visits.filterMap Visit.file?).filter (·.isSourceFile extension)

structure SameFound (t t' : FileTree) (extension : String) (visits visits' : List Visit) :
    Prop where
  sources : sourcesOf extension visits' = sourcesOf extension visits
  agree : ∀ p ∈ sourcesOf extension visits, AgreeOn (t.trail p) t t'

section Found

variable {t t' : FileTree} {extension : String}

theorem sourcesOf_flatMap {α : Type} (l : List α) (f : α → List Visit) :
    sourcesOf extension (l.flatMap f) = l.flatMap fun a => sourcesOf extension (f a) := by
  simp only [sourcesOf, List.filterMap_flatMap, List.filter_flatMap]

theorem sourcesOf_file {p : Path} (h : p.isSourceFile extension = false) :
    sourcesOf extension [.file p] = [] := by
  simp [sourcesOf, Visit.file?, h]

theorem SameFound.nil {visits : List Visit} (h : sourcesOf extension visits = []) :
    SameFound t t' extension visits visits :=
  ⟨rfl, by simp [h]⟩

theorem SameFound.file {p : Path} (h : p.isSourceFile extension = true → AgreeOn (t.trail p) t t') :
    SameFound t t' extension [.file p] [.file p] := by
  refine ⟨rfl, fun q hq => ?_⟩
  obtain ⟨hq, hsource⟩ := List.mem_filter.mp hq
  have hqp : q = p := by simpa [Visit.file?] using hq
  subst hqp
  exact h hsource

theorem flatMap_filter_of_nil {α β : Type} {p : α → Bool} {f : α → List β} {l : List α}
    (h : ∀ a ∈ l, p a = false → f a = []) : (l.filter p).flatMap f = l.flatMap f := by
  induction l with
  | nil => rfl
  | cons a l ih =>
      have hrest := ih fun b hb => h b (List.mem_cons_of_mem a hb)
      cases hp : p a with
      | true => simp [hp, hrest]
      | false => simp [hp, hrest, h a List.mem_cons_self hp]

def isKept (t t' : FileTree) (loc : Location) (entry : Name × Entry) : Bool :=
  t'.find? (entry.1 :: loc) = t.find? (entry.1 :: loc)

theorem filter_isKept_children (t t' : FileTree) (loc : Location) :
    (t'.children loc).filter (isKept t t' loc) = (t.children loc).filter (isKept t t' loc) := by
  have hirrefl : Std.Irrefl fun a b : Name × Entry => a.1 < b.1 := ⟨fun a => List.lt_irrefl a.1⟩
  have hantisymm : Std.Antisymm fun a b : Name × Entry => a.1 < b.1 :=
    ⟨fun a _ hab hba => absurd (List.lt_trans hab hba) (List.lt_irrefl a.1)⟩
  refine ((sorted_children t' loc).filter _).eq_of_mem_iff ((sorted_children t loc).filter _) ?_
  rintro ⟨n, e⟩
  rw [List.mem_filter, List.mem_filter, mem_children, mem_children]
  refine and_congr_left fun hkept => ?_
  rw [of_decide_eq_true hkept]

end Found

section Walk

variable {t t' : FileTree} {extension : String} {root : Path} {l : Location} {n : Name}
  {names : List Name} {e : Entry}

theorem find?_eq_none_below (h : t.find? l = none) (n : Name) : t.find? (n :: l) = none := by
  cases hfind : t.find? (n :: l) with
  | none => rfl
  | some e =>
      obtain ⟨rights, hdir⟩ := directory_of_find? hfind
      rw [h] at hdir
      cases hdir

theorem list_of_openDirectory {p : Path} (hopen : t.openDirectory p = .ok l) :
    t.list p = .ok (t.children l) := by
  rw [list, hopen]
  rfl

theorem of_openDirectory_eq_ok {p : Path} (hopen : t.openDirectory p = .ok l) :
    ∃ rights, t.resolve p = .ok l ∧ t.find? l = some (.directory rights) := by
  obtain ⟨l', rights, hresolve, hdir, hopen', -⟩ := of_list_eq_ok (list_of_openDirectory hopen)
  rw [hopen, Except.ok.injEq] at hopen'
  subst hopen'
  exact ⟨rights, hresolve, hdir⟩

variable (h : SameSources t t' extension)
include h

theorem sourcesOf_walk_of_new (fuel : Nat) : ∀ {way : List Waypoint} {here : Waypoint},
    (∀ there, t'.resolve here.path = .ok there → t.find? there = none) →
      sourcesOf extension (walk t' fuel way here) = [] := by
  induction fuel with
  | zero => exact fun _ => rfl
  | succ fuel ih =>
      intro way here hnew
      rw [walk]
      cases hlist : t'.list here.path with
      | error e => rfl
      | ok entries =>
          obtain ⟨l, rights, hresolve, hdir, -, rfl⟩ := of_list_eq_ok hlist
          simp only [sourcesOf_flatMap, List.flatMap_eq_nil_iff]
          rintro ⟨n, e⟩ hchild
          have hfind := mem_children.mp hchild
          have hn := isName_of_find? hfind
          have hnone := find?_eq_none_below (hnew l hresolve) n
          have hchanged : t'.find? (n :: l) ≠ t.find? (n :: l) := by simp [hfind, hnone]
          rcases h.after hchanged hfind with ⟨⟨r, content, rfl⟩, hname⟩ | ⟨-, r, rfl⟩
          · exact sourcesOf_file (hname _ (fileName?_joinName hn here.path))
          · refine ih fun there hthere => ?_
            rw [resolve_joinName hn hresolve hdir (by simp [hfind]) hthere, hnone]

theorem sourcesOf_walk_before (fuel : Nat) (way : List Waypoint) (here : Waypoint)
    (hopen : t.openDirectory here.path = .ok l) :
    sourcesOf extension (walk t (fuel + 1) way here) =
      ((t.children l).filter (isKept t t' l)).flatMap fun a =>
        sourcesOf extension (visit t (walk t fuel) (here :: way) here a) := by
  rw [walk, list_of_openDirectory hopen]
  simp only [sourcesOf_flatMap]
  refine (flatMap_filter_of_nil ?_).symm
  rintro ⟨n, e⟩ ha hkept
  have hfind := mem_children.mp ha
  obtain ⟨⟨r, content, rfl⟩, hname⟩ := h.before (of_decide_eq_false hkept) hfind
  exact sourcesOf_file (hname _ (fileName?_joinName (isName_of_find? hfind) here.path))

theorem sourcesOf_walk_after (fuel : Nat) (way : List Waypoint) (here : Waypoint)
    (hopen : t'.openDirectory here.path = .ok l) :
    sourcesOf extension (walk t' (fuel + 1) way here) =
      ((t.children l).filter (isKept t t' l)).flatMap fun a =>
        sourcesOf extension (visit t' (walk t' fuel) (here :: way) here a) := by
  obtain ⟨rights, hresolve, hdir⟩ := of_openDirectory_eq_ok hopen
  rw [walk, list_of_openDirectory hopen, ← filter_isKept_children]
  simp only [sourcesOf_flatMap]
  refine (flatMap_filter_of_nil ?_).symm
  rintro ⟨n, e⟩ ha hkept
  have hfind := mem_children.mp ha
  have hn := isName_of_find? hfind
  rcases h.after (of_decide_eq_false hkept) hfind with ⟨⟨r, content, rfl⟩, hname⟩ | ⟨hnone, r, rfl⟩
  · exact sourcesOf_file (hname _ (fileName?_joinName hn here.path))
  · refine sourcesOf_walk_of_new h fuel fun there hthere => ?_
    rw [resolve_joinName hn hresolve hdir (by simp [hfind]) hthere, hnone]

variable (hlinks : LinksAgree t t' root)
include hlinks

theorem sameFound_visit {fuel : Nat} {way : List Waypoint} {at_ : Location} {rights : Rights}
    (hnames : ∀ m ∈ names, Path.isName m = true)
    (hagree : AgreeOn (t.trail (root.under names)) t t')
    (hresolve : t.resolve (root.under names) = .ok l)
    (hdir : t.find? l = some (.directory rights)) (hfind : t.find? (n :: l) = some e)
    (hkept : t'.find? (n :: l) = t.find? (n :: l))
    (hwalk : ∀ {way at_}, AgreeOn (t.trail (root.under (names ++ [n]))) t t' →
      SameFound t t' extension (walk t fuel way ⟨root.under (names ++ [n]), at_⟩)
        (walk t' fuel way ⟨root.under (names ++ [n]), at_⟩)) :
    SameFound t t' extension (visit t (walk t fuel) way ⟨root.under names, at_⟩ (n, e))
      (visit t' (walk t' fuel) way ⟨root.under names, at_⟩ (n, e)) := by
  have hn := isName_of_find? hfind
  have hdown : (∀ target, e ≠ .link target) →
      AgreeOn (t.trail (root.under (names ++ [n]))) t t' := by
    intro hlink x hx
    rw [Path.under_concat] at hx
    rcases trail_joinName hn hresolve hdir (by rw [hfind]; simpa using hlink) x hx with hx | rfl
    · exact hagree x hx
    · exact hkept
  simp only [visit, ← Path.under_concat]
  cases e with
  | file r content => exact .file fun _ => hdown (by simp)
  | directory r => exact hwalk (hdown (by simp))
  | link target =>
      have hlink := hlinks names n l target hnames hresolve hfind
      simp only [locate_congr h.working hlink]
      cases hlocate : t.locate (root.under (names ++ [n])) with
      | error e => exact .nil rfl
      | ok found =>
          obtain ⟨there, e⟩ := found
          cases e with
          | file r content => exact .file fun _ => hlink
          | link target => exact .file fun _ => hlink
          | directory r =>
              simp only
              split
              · exact .nil rfl
              · split
                · exact .nil rfl
                · exact hwalk hlink

theorem sameFound_walk (fuel : Nat) : ∀ (names : List Name) {way : List Waypoint} {at_ : Location},
    (∀ m ∈ names, Path.isName m = true) → AgreeOn (t.trail (root.under names)) t t' →
      SameFound t t' extension (walk t fuel way ⟨root.under names, at_⟩)
        (walk t' fuel way ⟨root.under names, at_⟩) := by
  induction fuel with
  | zero => exact fun _ _ _ _ _ => .nil rfl
  | succ fuel ih =>
      intro names way at_ hnames hagree
      have hopen' := openDirectory_congr h.working hagree
      cases hopen : t.openDirectory (root.under names) with
      | error e =>
          rw [hopen] at hopen'
          rw [walk, walk, list, list, hopen, hopen']
          exact .nil rfl
      | ok l =>
          rw [hopen] at hopen'
          obtain ⟨rights, hresolve, hdir⟩ := of_openDirectory_eq_ok hopen
          let here : Waypoint := ⟨root.under names, at_⟩
          have hvisit : ∀ a ∈ (t.children l).filter (isKept t t' l),
              SameFound t t' extension (visit t (walk t fuel) (here :: way) here a)
                (visit t' (walk t' fuel) (here :: way) here a) := by
            rintro ⟨n, e⟩ ha
            obtain ⟨hchild, hkept⟩ := List.mem_filter.mp ha
            have hfind := mem_children.mp hchild
            refine sameFound_visit h hlinks hnames hagree hresolve hdir hfind
              (of_decide_eq_true hkept) fun hdown => ih (names ++ [n]) ?_ hdown
            intro m hm
            rcases List.mem_append.mp hm with hm | hm
            · exact hnames m hm
            · rw [List.mem_singleton.mp hm]
              exact isName_of_find? hfind
          have hbefore := sourcesOf_walk_before h fuel way here hopen
          have hafter := sourcesOf_walk_after h fuel way here hopen'
          constructor
          · rw [hbefore, hafter]
            exact List.flatMap_congr fun a ha => (hvisit a ha).sources
          · intro p hp
            rw [hbefore, List.mem_flatMap] at hp
            obtain ⟨a, ha, hp⟩ := hp
            exact (hvisit a ha).agree p hp

end Walk

theorem ofFiles_congr {t t' : FileTree} {root : Path} {paths : List Path}
    (h : ∀ p ∈ paths, t'.read p = t.read p) :
    Scan.ofFiles t' root paths = Scan.ofFiles t root paths := by
  induction paths with
  | nil => rfl
  | cons p paths ih =>
      rw [Scan.ofFiles, Scan.ofFiles, ih fun q hq => h q (List.mem_cons_of_mem p hq)]
      simp only [ScannedFile.read, h p List.mem_cons_self]

namespace Analysis

variable {t t' : FileTree} {c : Config}

theorem patterns_congr (hworking : t'.working = t.working)
    (h : AgreeOn (t.trail (c.sourceRoot.join (.ofString c.ignoreFile))) t t') :
    patterns t' c = patterns t c := by
  simp only [patterns, IgnorePattern.load, locate_congr hworking h, readText_congr hworking h]

theorem of_openRoot_eq_ok {root : Path} {loc : Location} (h : openRoot t root = .ok loc) :
    ∃ rights, t.resolve root = .ok loc ∧ t.find? loc = some (.directory rights) := by
  unfold openRoot at h
  split at h
  · cases h
  · cases h
  · split at h
    · cases h
    · split at h
      · cases h
      · rename_i l hopen
        cases h
        exact of_openDirectory_eq_ok hopen

theorem ofTree_congr (h : SameSources t t' c.extension) (hlinks : LinksAgree t t' c.sourceRoot)
    (hignore : AgreeOn (t.trail (c.sourceRoot.join (.ofString c.ignoreFile))) t t')
    {a : Analysis} (ha : ofTree t c = .ok a) : ofTree t' c = .ok a := by
  rw [← ha]
  cases hroot : openRoot t c.sourceRoot with
  | error e =>
      rw [ofTree, enumerate, Enumeration.enumerate, hroot] at ha
      cases ha
  | ok loc =>
      obtain ⟨rights, hresolve, hdir⟩ := of_openRoot_eq_ok hroot
      have hagree : AgreeOn (t.trail c.sourceRoot) t t' := by
        intro x hx
        obtain ⟨e, he, hkind⟩ := exists_entry_of_mem_trail hresolve hdir x hx
        by_contra hchanged
        obtain ⟨⟨r, content, rfl⟩, -⟩ := h.before hchanged he
        cases hkind
      have hroot' : openRoot t' c.sourceRoot = .ok loc := by
        rw [← hroot, openRoot, openRoot, locate_congr h.working hagree,
          openDirectory_congr h.working hagree]
      have hfound : SameFound t t' c.extension (walk t pathLimit [] ⟨c.sourceRoot, loc⟩)
          (walk t' pathLimit [] ⟨c.sourceRoot, loc⟩) :=
        sameFound_walk h hlinks pathLimit [] (by simp) hagree
      have hfiles : ∀ visits, (ofVisits c.sourceRoot c.extension (patterns t c) visits).files =
          (sourcesOf c.extension visits).filter
            fun p => !isIgnored (below c.sourceRoot p) (patterns t c) :=
        fun _ => rfl
      rw [ofTree, ofTree, enumerate, enumerate, Enumeration.enumerate, Enumeration.enumerate, hroot,
        hroot', patterns_congr h.working hignore]
      simp only [Except.map, hfiles, hfound.sources]
      rw [ofFiles_congr]
      intro p hp
      exact read_congr h.working (hfound.agree p (List.mem_filter.mp hp).1)

end Analysis

end EntityGraph
