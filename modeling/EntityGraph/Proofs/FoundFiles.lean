import EntityGraph.Proofs.SourcePaths
import EntityGraph.Proofs.WalkSteps

namespace EntityGraph

open FileTree Enumeration

variable {t t' : FileTree} {root p : Path} {n : Name} {passed names : List Name}
  {way : List Waypoint} {here next : Waypoint} {c : Name × Entry} {l : Location} {fuel : Nat}

section Reference

/-- From the directory that the names passed so far lead to, the further names lead to a file:
through directories that can be listed and through links, but through none to a directory that the
names before it lead through. -/
inductive LeadsToFile (t : FileTree) (root : Path) : List Name → List Name → Prop where
  | file {passed : List Name} {n : Name} {l : Location} {e : Entry}
      (hopen : t.openDirectory (root.under passed) = .ok l) (hfind : t.find? (n :: l) = some e)
      (hfile : IsFileAt t (root.under (passed ++ [n])) e) : LeadsToFile t root passed [n]
  | through {passed : List Name} {n : Name} {rest : List Name} {l : Location} {e : Entry}
      (hopen : t.openDirectory (root.under passed) = .ok l) (hfind : t.find? (n :: l) = some e)
      (hlink : e.isLink = true → ∀ before, before <+: passed →
        t.openDirectory (root.under before) ≠ t.openDirectory (root.under (passed ++ [n])))
      (hrest : LeadsToFile t root (passed ++ [n]) rest) : LeadsToFile t root passed (n :: rest)

namespace LeadsToFile

theorem exists_openDirectory (h : LeadsToFile t root passed names) :
    ∃ l, t.openDirectory (root.under passed) = .ok l := by
  cases h with
  | file hopen => exact ⟨_, hopen⟩
  | through hopen => exact ⟨_, hopen⟩

theorem ne_nil (h : LeadsToFile t root passed names) : names ≠ [] := by
  cases h <;> exact List.cons_ne_nil _ _

theorem isName (h : LeadsToFile t root passed names) : ∀ n ∈ names, Path.isName n = true := by
  induction h with
  | file _ hfind _ => simpa using isName_of_find? hfind
  | through _ hfind _ _ ih => exact List.forall_mem_cons.mpr ⟨isName_of_find? hfind, ih⟩

theorem length_le (h : LeadsToFile t root passed names) (hroot : root.isEmpty = false)
    (hpassed : ∀ n ∈ passed, Path.isName n = true) :
    passed.length + names.length ≤ pathLimit := by
  induction h with
  | @file passed n l e hopen _ _ =>
      obtain ⟨rights, hresolve, -⟩ := of_openDirectory_eq_ok hopen
      have hshort := length_lt_of_resolve hresolve
      have hlong := Path.length_under hroot hpassed
      rw [List.length_singleton]
      omega
  | @through passed n rest l e _ hfind _ _ ih =>
      have hboth : ∀ m ∈ passed ++ [n], Path.isName m = true :=
        List.forall_mem_append.mpr ⟨hpassed, by simpa using isName_of_find? hfind⟩
      have hrest := ih hboth
      rw [List.length_append, List.length_singleton] at hrest
      rw [List.length_cons]
      omega

end LeadsToFile

end Reference

section Walk

structure OnWay (t : FileTree) (root : Path) (passed : List Name) (way : List Waypoint)
    (here : Waypoint) : Prop where
  path : here.path = root.under passed
  stands : Stands t here
  way : ∀ l, (∃ w ∈ way, w.location = l) ↔
    ∃ before, before <+: passed ∧ before ≠ passed ∧ t.openDirectory (root.under before) = .ok l

namespace OnWay

theorem start (hopen : t.openDirectory root = .ok l) : OnWay t root [] [] ⟨root, l⟩ where
  path := rfl
  stands := fun _ hthere => Except.ok.inj (hopen.symm.trans hthere)
  way := by
    intro l
    constructor
    · rintro ⟨w, hw, -⟩
      cases hw
    · rintro ⟨before, hbefore, hne, -⟩
      exact absurd (List.prefix_nil.mp hbefore) hne

variable (h : OnWay t root passed way here)
include h

theorem mem_cons_iff (hopen : t.openDirectory here.path = .ok here.location) (l : Location) :
    (∃ w ∈ here :: way, w.location = l) ↔
      ∃ before, before <+: passed ∧ t.openDirectory (root.under before) = .ok l := by
  simp only [List.mem_cons, exists_eq_or_imp, h.way l]
  rw [h.path] at hopen
  constructor
  · rintro (rfl | ⟨before, hbefore, -, hl⟩)
    · exact ⟨passed, List.prefix_rfl, hopen⟩
    · exact ⟨before, hbefore, hl⟩
  · rintro ⟨before, hbefore, hl⟩
    by_cases hsame : before = passed
    · subst hsame
      exact .inl (Except.ok.inj (hopen.symm.trans hl))
    · exact .inr ⟨before, hbefore, hsame, hl⟩

theorem enter (hopen : t.openDirectory here.path = .ok here.location)
    (hc : c ∈ t.children here.location) (hnext : Enters t (here :: way) here c next) :
    OnWay t root (passed ++ [c.1]) (here :: way) next where
  path := by rw [hnext.path_eq, h.path, Path.under_concat]
  stands := hnext.stands hopen hc
  way := by
    intro l
    rw [h.mem_cons_iff hopen]
    refine exists_congr fun before => ?_
    rw [List.prefix_concat_iff]
    constructor
    · rintro ⟨hbefore, hl⟩
      refine ⟨.inr hbefore, ?_, hl⟩
      rintro rfl
      have hlength := hbefore.length_le
      rw [List.length_append, List.length_singleton] at hlength
      omega
    · rintro ⟨hbefore, hne, hl⟩
      exact ⟨hbefore.resolve_left hne, hl⟩

theorem exists_enters {e : Entry} {target : Location}
    (hopen : t.openDirectory here.path = .ok here.location)
    (hfind : t.find? (n :: here.location) = some e)
    (htarget : t.openDirectory (root.under (passed ++ [n])) = .ok target)
    (hlink : e.isLink = true → ∀ before, before <+: passed →
      t.openDirectory (root.under before) ≠ t.openDirectory (root.under (passed ++ [n]))) :
    ∃ next, Enters t (here :: way) here (n, e) next := by
  have hjoined : t.openDirectory (here.path.joinName n) = .ok target := by
    rw [h.path, ← Path.under_concat, htarget]
  cases e with
  | directory rights => exact ⟨_, .directory⟩
  | file rights content =>
      -- a file is no directory, however it is reached
      have hnolink : ¬IsLinkAt t (n :: here.location) := by rintro ⟨p, hp⟩; simp [hp] at hfind
      have hwhere := location_of_openDirectory hopen hfind hnolink hjoined
      obtain ⟨r, -, hdir⟩ := of_openDirectory_eq_ok hjoined
      rw [hwhere, hfind] at hdir
      cases hdir
  | link p =>
      refine ⟨_, .link hjoined ?_⟩
      intro w hw hl
      obtain ⟨before, hbefore, hsame⟩ := (h.mem_cons_iff hopen _).mp ⟨w, hw, hl⟩
      exact hlink rfl before hbefore (hsame.trans htarget.symm)

end OnWay

def filesOf (visits : List Visit) : List Path :=
  visits.filterMap Visit.file?

theorem filesOf_walk_of_error {e : FileError} (hopen : t.openDirectory here.path = .error e) :
    filesOf (walk t (fuel + 1) way here) = [] := by
  rw [walk, list, hopen]
  rfl

theorem filesOf_walk_eq (hopen : t.openDirectory here.path = .ok l) :
    filesOf (walk t (fuel + 1) way here) =
      (t.children l).flatMap fun c => filesOf (visit t (walk t fuel) (here :: way) here c) := by
  rw [walk, list_of_openDirectory hopen, filesOf]
  exact List.filterMap_flatMap

theorem exists_names_of_mem_visit {go : List Waypoint → Waypoint → List Visit}
    (h : OnWay t root passed way here)
    (hopen : t.openDirectory here.path = .ok here.location) (hc : c ∈ t.children here.location)
    (hgo : ∀ next, Enters t (here :: way) here c next → p ∈ filesOf (go (here :: way) next) →
      ∃ rest, LeadsToFile t root (passed ++ [c.1]) rest ∧ p = root.under (passed ++ [c.1] ++ rest))
    (hp : p ∈ filesOf (visit t go (here :: way) here c)) :
    ∃ rest, LeadsToFile t root passed (c.1 :: rest) ∧ p = root.under (passed ++ c.1 :: rest) := by
  have hfind := mem_children.mp hc
  have hopen' : t.openDirectory (root.under passed) = .ok here.location := h.path ▸ hopen
  rcases visit_cases (here :: way) hopen hc with ⟨next, hnext⟩ | hfile | ⟨failure, hfailed⟩
  · rw [visit_of_enters hnext] at hp
    obtain ⟨rest, hrest, rfl⟩ := hgo next hnext hp
    refine ⟨rest, .through hopen' hfind ?_ hrest, by simp⟩
    intro hlink before hbefore heq
    cases hnext with
    | directory => cases hlink
    | link htarget hway =>
        rw [h.path, ← Path.under_concat] at htarget
        obtain ⟨w, hw, hl⟩ := (h.mem_cons_iff hopen _).mpr ⟨before, hbefore, heq.trans htarget⟩
        exact hway w hw hl
  · rw [visit_of_isFileAt hfile] at hp
    rw [h.path, ← Path.under_concat] at hfile hp
    exact ⟨[], .file hopen' hfind hfile, List.mem_singleton.mp hp⟩
  · rw [hfailed] at hp
    cases hp

theorem exists_names_of_mem_walk (fuel : Nat) :
    ∀ {passed : List Name} {way : List Waypoint} {here : Waypoint},
      OnWay t root passed way here → p ∈ filesOf (walk t fuel way here) →
        ∃ names, LeadsToFile t root passed names ∧ p = root.under (passed ++ names) := by
  induction fuel with
  | zero =>
      intro passed way here _ hp
      cases hp
  | succ fuel ih =>
      intro passed way here h hp
      cases hopen : t.openDirectory here.path with
      | error e =>
          rw [filesOf_walk_of_error hopen] at hp
          cases hp
      | ok l =>
          obtain rfl := h.stands l hopen
          rw [filesOf_walk_eq hopen, List.mem_flatMap] at hp
          obtain ⟨c, hc, hp⟩ := hp
          obtain ⟨rest, hrest, rfl⟩ := exists_names_of_mem_visit h hopen hc
            (fun next hnext => ih (h.enter hopen hc hnext)) hp
          exact ⟨c.1 :: rest, hrest, rfl⟩

theorem mem_walk_of_leadsToFile (h : LeadsToFile t root passed names) :
    ∀ {fuel : Nat} {way : List Waypoint} {here : Waypoint}, OnWay t root passed way here →
      names.length ≤ fuel → root.under (passed ++ names) ∈ filesOf (walk t fuel way here) := by
  induction h with
  | @file passed n l e hopen hfind hfile =>
      intro fuel way here hway hlength
      obtain ⟨fuel, rfl⟩ := Nat.exists_eq_add_of_le' hlength
      rw [← hway.path] at hopen
      rw [List.length_singleton, filesOf_walk_eq hopen, List.mem_flatMap]
      refine ⟨(n, e), mem_children.mpr hfind, ?_⟩
      rw [Path.under_concat, ← hway.path] at hfile ⊢
      have hvisit := @visit_of_isFileAt t (walk t fuel) (here :: way) here (n, e) hfile
      rw [hvisit]
      exact List.mem_singleton.mpr rfl
  | @through passed n rest l e hopen hfind hlink hrest ih =>
      intro fuel way here hway hlength
      obtain ⟨fuel, rfl⟩ := Nat.exists_eq_add_of_le' (Nat.le_trans (Nat.le_add_left 1 _) hlength)
      rw [← hway.path] at hopen
      obtain rfl := hway.stands l hopen
      have hc := mem_children.mpr hfind
      obtain ⟨target, htarget⟩ := hrest.exists_openDirectory
      obtain ⟨next, hnext⟩ := hway.exists_enters hopen hfind htarget hlink
      rw [filesOf_walk_eq hopen, List.mem_flatMap]
      refine ⟨(n, e), hc, ?_⟩
      rw [visit_of_enters hnext]
      have hmem := ih (hway.enter hopen hc hnext) (Nat.le_of_succ_le_succ hlength)
      simpa using hmem

end Walk

section Order

theorem before_of_leadsToFile {m : Name} {xs ys : List Name}
    (hxs : LeadsToFile t root passed (n :: xs)) (hys : LeadsToFile t root passed (m :: ys))
    (h : n < m) : (root.under (passed ++ n :: xs)).Before (root.under (passed ++ m :: ys)) := by
  obtain ⟨l, hopen⟩ := hxs.exists_openDirectory
  obtain ⟨rights, hresolve, -⟩ := of_openDirectory_eq_ok hopen
  rw [Path.under_append, Path.under_append]
  exact Path.before_under (isEmpty_of_resolve hresolve) hxs.isName hys.isName h

theorem pairwise_filesOf_walk (fuel : Nat) :
    ∀ {passed : List Name} {way : List Waypoint} {here : Waypoint},
      OnWay t root passed way here → (filesOf (walk t fuel way here)).Pairwise Path.Before := by
  induction fuel with
  | zero => exact fun _ => .nil
  | succ fuel ih =>
      intro passed way here h
      cases hopen : t.openDirectory here.path with
      | error e =>
          rw [filesOf_walk_of_error hopen]
          exact .nil
      | ok l =>
          obtain rfl := h.stands l hopen
          rw [filesOf_walk_eq hopen, List.pairwise_flatMap]
          constructor
          · intro c hc
            rcases visit_cases (here :: way) hopen hc with ⟨next, hnext⟩ | hfile | ⟨failure, hfailed⟩
            · rw [visit_of_enters hnext]
              exact ih (h.enter hopen hc hnext)
            · rw [visit_of_isFileAt hfile]
              exact List.pairwise_singleton _ _
            · rw [hfailed]
              exact .nil
          · -- the files of two entries are told apart by the names of the entries
            refine (sorted_children t here.location).imp_of_mem ?_
            intro a b ha hb hab p hp q hq
            obtain ⟨xs, hxs, rfl⟩ := exists_names_of_mem_visit h hopen ha
              (fun _ hnext => exists_names_of_mem_walk fuel (h.enter hopen ha hnext)) hp
            obtain ⟨ys, hys, rfl⟩ := exists_names_of_mem_visit h hopen hb
              (fun _ hnext => exists_names_of_mem_walk fuel (h.enter hopen hb hnext)) hq
            exact before_of_leadsToFile hxs hys hab

end Order

section Congr

variable {extension : String} {patterns : List IgnorePattern}

/-- The trees hold the same, in whatever order they list it. -/
structure SameTree (t t' : FileTree) : Prop where
  working : t'.working = t.working
  find? : ∀ l, t'.find? l = t.find? l

theorem children_congr (h : SameTree t t') (l : Location) : t'.children l = t.children l := by
  have hkept : ∀ a, isKept t t' l a = true := fun a => decide_eq_true (h.find? _)
  have hfilter := filter_isKept_children t t' l
  rwa [List.filter_eq_self.mpr fun a _ => hkept a, List.filter_eq_self.mpr fun a _ => hkept a]
    at hfilter

theorem walk_congr (h : SameTree t t') (fuel : Nat) :
    ∀ (way : List Waypoint) (here : Waypoint), walk t' fuel way here = walk t fuel way here := by
  have hlocate : ∀ p, t'.locate p = t.locate p := fun p =>
    locate_congr h.working fun x _ => h.find? x
  have hopen : ∀ p, t'.openDirectory p = t.openDirectory p := fun p =>
    openDirectory_congr h.working fun x _ => h.find? x
  induction fuel with
  | zero => exact fun _ _ => rfl
  | succ fuel ih =>
      have hgo : walk t' fuel = walk t fuel := funext fun way => funext (ih way)
      intro way here
      have hchildren : t'.children = t.children := funext (children_congr h)
      have hvisit : visit t' (walk t' fuel) = visit t (walk t fuel) := by
        funext way at_ entry
        rw [visit, visit, hgo, hlocate]
      rw [walk, walk, list, list, hopen, hchildren, hvisit]

theorem enumerate_congr (h : SameTree t t') :
    enumerate t' root extension patterns = enumerate t root extension patterns := by
  have hroot : openRoot t' root = openRoot t root := by
    rw [openRoot, openRoot, locate_congr h.working fun x _ => h.find? x,
      openDirectory_congr h.working fun x _ => h.find? x]
  have hwalk : walk t' pathLimit = walk t pathLimit :=
    funext fun way => funext (walk_congr h pathLimit way)
  rw [enumerate, enumerate, hroot, hwalk]

structure SameAlong (t t' : FileTree) (root : Path) (names : List Name) : Prop where
  opened : ∀ before, before <+: names →
    t'.openDirectory (root.under before) = t.openDirectory (root.under before)
  entry : ∀ before n l, before ++ [n] <+: names → t.openDirectory (root.under before) = .ok l →
    t'.find? (n :: l) = t.find? (n :: l)
  target : t'.locate (root.under names) = t.locate (root.under names)

theorem SameAlong.symm (h : SameAlong t t' root names) : SameAlong t' t root names where
  opened := fun before hbefore => (h.opened before hbefore).symm
  entry := by
    intro before n l hbefore hopen
    rw [h.opened before ((List.prefix_append before [n]).trans hbefore)] at hopen
    exact (h.entry before n l hbefore hopen).symm
  target := h.target.symm

theorem LeadsToFile.congr (h : LeadsToFile t root passed names)
    (hsame : SameAlong t t' root (passed ++ names)) : LeadsToFile t' root passed names := by
  induction h with
  | @file passed n l e hopen hfind hfile =>
      refine .file (e := e) ?_ ((hsame.entry passed n l List.prefix_rfl hopen).trans hfind) ?_
      · rw [hsame.opened passed (List.prefix_append _ _), hopen]
      · cases e with
        | file rights content => trivial
        | directory rights => exact hfile.elim
        | link target =>
            obtain ⟨there, rights, content, hlocate⟩ := hfile
            exact ⟨there, rights, content, hsame.target.trans hlocate⟩
  | @through passed n rest l e hopen hfind hlink _ ih =>
      have hsplit : passed ++ n :: rest = passed ++ [n] ++ rest := by simp
      have hn : passed ++ [n] <+: passed ++ n :: rest := hsplit ▸ List.prefix_append _ _
      have hpassed : passed <+: passed ++ n :: rest := List.prefix_append _ _
      refine .through (e := e) ?_ ((hsame.entry passed n l hn hopen).trans hfind) ?_
        (ih (hsplit ▸ hsame))
      · rw [hsame.opened passed hpassed, hopen]
      · intro hl before hbefore
        rw [hsame.opened before (hbefore.trans hpassed), hsame.opened _ hn]
        exact hlink hl before hbefore

end Congr

section Enumerate

variable {extension : String} {patterns : List IgnorePattern}

structure LeadsToSource (t : FileTree) (root : Path) (extension : String)
    (patterns : List IgnorePattern) (names : List Name) : Prop where
  leads : LeadsToFile t root [] names
  extension : ∃ n, names.getLast? = some n ∧ Path.HasExtension extension n
  unmatched : ∀ p ∈ patterns, p.hits (IgnorePattern.subject (.ofPieces names)) = false

theorem openRoot_of_openDirectory (h : t.openDirectory root = .ok l) : openRoot t root = .ok l := by
  obtain ⟨rights, hlocate, -⟩ := openDirectory_eq_ok_iff.mp h
  simp [openRoot, hlocate, h, Entry.isDirectory]

theorem mem_files_ofVisits {visits : List Visit} (hroot : root.isEmpty = false)
    (hnames : ∀ n ∈ names, Path.isName n = true) (hne : names ≠ []) :
    root.under names ∈ (ofVisits root extension patterns visits).files ↔
      root.under names ∈ filesOf visits ∧
        (∃ n, names.getLast? = some n ∧ Path.HasExtension extension n) ∧
        ∀ p ∈ patterns, p.hits (IgnorePattern.subject (.ofPieces names)) = false := by
  obtain ⟨init, n, rfl⟩ := (List.eq_nil_or_concat' names).resolve_left hne
  have hfile : (root.under (init ++ [n])).fileName? = some n := by
    rw [Path.under_concat]
    exact fileName?_joinName (hnames n (by simp)) _
  have hbelow : below root (root.under (init ++ [n])) = .ofPieces (init ++ [n]) := by
    rw [below, Path.relativeTo?_under hroot hnames hne, Option.getD_some]
  have hfiles : (ofVisits root extension patterns visits).files =
      ((filesOf visits).filter (·.isSourceFile extension)).filter
        fun p => !isIgnored (below root p) patterns := rfl
  rw [hfiles, List.mem_filter, List.mem_filter, hbelow, Path.isSourceFile_iff hfile, and_assoc]
  simp [isIgnored]

theorem LeadsToSource.congr (h : LeadsToSource t root extension patterns names)
    (hsame : SameAlong t t' root names) : LeadsToSource t' root extension patterns names :=
  { h with leads := h.leads.congr hsame }

theorem enumerate_eq (hopen : t.openDirectory root = .ok l) (extension : String)
    (patterns : List IgnorePattern) :
    enumerate t root extension patterns =
      .ok (ofVisits root extension patterns (walk t pathLimit [] ⟨root, l⟩)) := by
  rw [enumerate, openRoot_of_openDirectory hopen]
  rfl

theorem mem_files_walk_iff (hopen : t.openDirectory root = .ok l) :
    p ∈ (ofVisits root extension patterns (walk t pathLimit [] ⟨root, l⟩)).files ↔
      ∃ names, LeadsToSource t root extension patterns names ∧ p = root.under names := by
  obtain ⟨rights, hresolve, -⟩ := of_openDirectory_eq_ok hopen
  have hroot := isEmpty_of_resolve hresolve
  constructor
  · intro hp
    have hmem : p ∈ filesOf (walk t pathLimit [] ⟨root, l⟩) :=
      (List.mem_filter.mp (List.mem_filter.mp hp).1).1
    obtain ⟨names, hleads, rfl⟩ := exists_names_of_mem_walk _ (OnWay.start hopen) hmem
    obtain ⟨-, hextension, hunmatched⟩ :=
      (mem_files_ofVisits hroot hleads.isName hleads.ne_nil).mp hp
    exact ⟨names, ⟨hleads, hextension, hunmatched⟩, rfl⟩
  · rintro ⟨names, ⟨hleads, hextension, hunmatched⟩, rfl⟩
    have hlength := hleads.length_le hroot (by simp)
    rw [List.length_nil, Nat.zero_add] at hlength
    exact (mem_files_ofVisits hroot hleads.isName hleads.ne_nil).mpr
      ⟨mem_walk_of_leadsToFile hleads (OnWay.start hopen) hlength, hextension, hunmatched⟩

theorem under_mem_files_iff {e : Enumeration} (hopen : t.openDirectory root = .ok l)
    (he : enumerate t root extension patterns = .ok e) (hnames : ∀ n ∈ names, Path.isName n = true) :
    root.under names ∈ e.files ↔ LeadsToSource t root extension patterns names := by
  obtain ⟨rights, hresolve, -⟩ := of_openDirectory_eq_ok hopen
  rw [enumerate_eq hopen, Except.ok.injEq] at he
  rw [← he, mem_files_walk_iff hopen]
  constructor
  · rintro ⟨names', hsource, hunder⟩
    rwa [Path.under_injective (isEmpty_of_resolve hresolve) hnames hsource.leads.isName hunder]
  · exact fun hsource => ⟨names, hsource, rfl⟩

structure FindsSources (t : FileTree) (root : Path) (l : Location) (extension : String)
    (patterns : List IgnorePattern) (files : List Path) : Prop where
  mem_iff : ∀ p, p ∈ files ↔
    ∃ names, LeadsToSource t root extension patterns names ∧ p = root.under names
  ordered : files.Pairwise Path.Before
  nodup : files.Nodup
  /-- The walk ends by itself: with more levels than paths can have, or with more than there are
  places to come to, it meets nothing else. -/
  ended : ∀ fuel, min pathLimit (levelBound t) ≤ fuel →
    walk t fuel [] ⟨root, l⟩ = walk t pathLimit [] ⟨root, l⟩
  unordered : ∀ t', SameTree t t' →
    ∃ e, enumerate t' root extension patterns = .ok e ∧ e.files = files
  aside : ∀ t' l' e, t'.openDirectory root = .ok l' →
    enumerate t' root extension patterns = .ok e → ∀ names, (∀ n ∈ names, Path.isName n = true) →
      SameAlong t t' root names → (root.under names ∈ e.files ↔ root.under names ∈ files)

theorem findsSources_enumerate (hopen : t.openDirectory root = .ok l) (extension : String)
    (patterns : List IgnorePattern) :
    ∃ e, enumerate t root extension patterns = .ok e ∧
      FindsSources t root l extension patterns e.files := by
  have henumerate := enumerate_eq hopen extension patterns
  have hordered : (ofVisits root extension patterns
      (walk t pathLimit [] ⟨root, l⟩)).files.Pairwise Path.Before :=
    ((pairwise_filesOf_walk pathLimit (OnWay.start hopen)).filter _).filter _
  refine ⟨_, henumerate, ?_⟩
  exact
    { mem_iff := fun p => mem_files_walk_iff hopen
      ordered := hordered
      nodup := hordered.imp Path.Before.ne
      ended := fun fuel hfuel => walk_eq_of_le hopen hfuel
      unordered := fun t' hsame => ⟨_, (enumerate_congr hsame).trans henumerate, rfl⟩
      aside := by
        intro t' l' e hopen' he names hnames hsame
        rw [under_mem_files_iff hopen' he hnames, under_mem_files_iff hopen henumerate hnames]
        exact ⟨fun h => h.congr hsame.symm, fun h => h.congr hsame⟩ }

section Tangled

def grown (entries : List (String × Entry)) : FileTree :=
  entries.foldl (fun t x => t.put ((Path.ofString x.1).pieces.reverse ++ t.working) x.2) fresh

def tangledTree : FileTree :=
  let directory : Entry := .directory allRights
  let file : Entry := .file fileRights []
  grown
    [("src", directory), ("src/Zed.cs", file), ("src/a", directory), ("src/a/One.CS", file),
      ("src/a/up", .link (.ofString "..")), ("src/a.cs", file),
      ("src/gone.cs", .link (.ofString "nowhere")), ("src/locked", .directory ⟨false, true, true⟩),
      ("src/locked/Three.cs", file), ("src/view", .link (.ofString "../lib")), ("src/x.g.cs", file),
      ("lib", directory), ("lib/Two.cs", file), ("lib/back", .link (.ofString "../src"))]

theorem findsSources_tangled :
    ∃ e, enumerate tangledTree (.ofString "src") ".cs" [.suffix ".g.cs"] = .ok e ∧
      e.files.map Path.display = ["src/Zed.cs", "src/a/One.CS", "src/a.cs", "src/view/Two.cs"] ∧
      FindsSources tangledTree (.ofString "src") [Utf8.ofString "src", workingName] ".cs"
        [.suffix ".g.cs"] e.files := by
  have hopen : tangledTree.openDirectory (.ofString "src") =
      .ok [Utf8.ofString "src", workingName] := by
    rfl
  obtain ⟨e, he, hfinds⟩ := findsSources_enumerate hopen ".cs" [.suffix ".g.cs"]
  have hfiles : ((enumerate tangledTree (.ofString "src") ".cs" [.suffix ".g.cs"]).toOption.map
      fun e => e.files.map Path.display) =
        some ["src/Zed.cs", "src/a/One.CS", "src/a.cs", "src/view/Two.cs"] := by
    decide +kernel
  have hfound := congrArg (fun r => r.toOption.map fun e => e.files.map Path.display) he
  exact ⟨e, he, Option.some.inj (hfound.symm.trans hfiles), hfinds⟩

end Tangled

end Enumerate

end EntityGraph
