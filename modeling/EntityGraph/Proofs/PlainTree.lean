import EntityGraph.Enumeration
import EntityGraph.Proofs.FilesBelow
import EntityGraph.Proofs.Resolve

namespace EntityGraph

open FileTree Enumeration

variable {t : FileTree} {root : Path} {loc : Location}

structure PlainBelow (t : FileTree) (root : Path) (loc : Location) : Prop where
  located : ∃ rights, t.locate root = .ok (loc, .directory rights)
  noLink : NoLinkBelow t loc
  listed : ∀ names rights, t.find? (names.reverse ++ loc) = some (.directory rights) →
    ∃ entries, t.list (root.under names) = .ok entries
  utf8 : ∀ n names e, t.find? (n :: (names ++ loc)) = some e → (Utf8.decode? n).isSome

namespace FileTree

theorem of_locate_eq_ok {p : Path} {e : Entry} (h : t.locate p = .ok (loc, e)) :
    t.resolve p = .ok loc ∧ t.find? loc = some e := by
  unfold locate at h
  cases hp : t.resolve p with
  | error e => rw [hp] at h; cases h
  | ok l =>
      rw [hp] at h
      simp only [bind, Except.bind] at h
      cases hl : t.find? l with
      | none => rw [hl] at h; cases h
      | some e' =>
          rw [hl] at h
          cases h
          exact ⟨rfl, hl⟩

theorem locate_of_resolve {p : Path} {e : Entry} (h : t.resolve p = .ok loc)
    (hfind : t.find? loc = some e) : t.locate p = .ok (loc, e) := by
  rw [locate, h]
  simp only [bind, Except.bind, hfind]

theorem of_list_eq_ok {p : Path} {entries : List (Name × Entry)} (h : t.list p = .ok entries) :
    ∃ l rights, t.resolve p = .ok l ∧ t.find? l = some (.directory rights) ∧
      t.openDirectory p = .ok l ∧ entries = t.children l := by
  unfold list at h
  cases hopen : t.openDirectory p with
  | error e => rw [hopen] at h; cases h
  | ok l =>
      rw [hopen] at h
      simp only [Except.map, Except.ok.injEq] at h
      unfold openDirectory at hopen
      cases hlocate : t.locate p with
      | error e => rw [hlocate] at hopen; cases hopen
      | ok found =>
          obtain ⟨l', e⟩ := found
          obtain ⟨hresolve, hfind⟩ := of_locate_eq_ok hlocate
          rw [hlocate] at hopen
          simp only [bind, Except.bind] at hopen
          cases e with
          | file rights content => cases hopen
          | link target => cases hopen
          | directory rights =>
              simp only at hopen
              split at hopen
              · cases hopen
                exact ⟨l, rights, hresolve, hfind, rfl, h.symm⟩
              · cases hopen

theorem isName_of_mem {names : List Name} {e : Entry} (h : t.find? (names ++ loc) = some e) :
    ∀ n ∈ names, Path.isName n = true := by
  induction names generalizing e with
  | nil => simp
  | cons m names ih =>
      have hentry := isEntryName_of_find? h
      obtain ⟨rights, hdir⟩ := directory_of_find? h
      intro n hn
      rcases List.mem_cons.mp hn with rfl | hn
      · rw [isEntryName, Bool.and_eq_true] at hentry
        exact hentry.1
      · exact ih hdir n hn

theorem isName_of_mem_down {names : List Name} {e : Entry}
    (h : t.find? (names.reverse ++ loc) = some e) : ∀ n ∈ names, Path.isName n = true :=
  fun n hn => isName_of_mem h n (List.mem_reverse.mpr hn)

end FileTree

def namesBelow (loc there : Location) : List Name :=
  (there.take (there.length - loc.length)).reverse

theorem namesBelow_append (names : List Name) : namesBelow loc (names.reverse ++ loc) = names := by
  unfold namesBelow
  have hlen : (names.reverse ++ loc).length - loc.length = names.reverse.length := by
    rw [List.length_append, Nat.add_sub_cancel]
  rw [hlen, List.take_left, List.reverse_reverse]

def isPlainEntry (t : FileTree) (root : Path) (loc : Location) (x : Location × Entry) : Bool :=
  let names := namesBelow loc x.1
  !loc.isSuffixOf x.1 ||
    (!x.2.isLink && (!x.2.isDirectory || (t.list (root.under names)).toOption.isSome) &&
      names.all fun n => (Utf8.decode? n).isSome)

theorem plainBelow_of_entries {rights : Rights}
    (hroot : t.locate root = .ok (loc, .directory rights))
    (h : t.entries.all (isPlainEntry t root loc) = true) : PlainBelow t root loc := by
  have hentry : ∀ {names : List Name} {e : Entry}, t.find? (names.reverse ++ loc) = some e →
      e.isLink = false ∧ (e.isDirectory = true → (t.list (root.under names)).toOption.isSome) ∧
        ∀ n ∈ names, (Utf8.decode? n).isSome := by
    intro names e hfind
    have hplain := List.all_eq_true.mp h _ (mem_entries_of_find? hfind)
    have hsuffix : loc.isSuffixOf (names.reverse ++ loc) = true :=
      List.isSuffixOf_iff_suffix.mpr (List.suffix_append names.reverse loc)
    simp only [isPlainEntry, namesBelow_append, hsuffix, Bool.not_true, Bool.false_or,
      Bool.and_eq_true, Bool.not_eq_true', Bool.or_eq_true, List.all_eq_true] at hplain
    obtain ⟨⟨hlink, hlist⟩, hutf8⟩ := hplain
    refine ⟨hlink, ?_, hutf8⟩
    intro hdir
    exact hlist.resolve_left (by simp [hdir])
  constructor
  · exact ⟨rights, hroot⟩
  · intro names target hfind
    rw [← List.reverse_reverse names] at hfind
    exact absurd (hentry hfind).1 (by simp [Entry.isLink])
  · intro names r hfind
    have hlist := (hentry hfind).2.1 rfl
    cases hl : t.list (root.under names) with
    | ok entries => exact ⟨entries, rfl⟩
    | error e => rw [hl] at hlist; cases hlist
  · intro n names e hfind
    rw [← List.reverse_reverse names, ← reverse_concat_append] at hfind
    exact (hentry hfind).2.2 n (by simp)

namespace PlainBelow

variable (h : PlainBelow t root loc)
include h

theorem resolve_root : t.resolve root = .ok loc := by
  obtain ⟨rights, hroot⟩ := h.located
  exact (of_locate_eq_ok hroot).1

theorem find?_root : ∃ rights, t.find? loc = some (.directory rights) := by
  obtain ⟨rights, hroot⟩ := h.located
  exact ⟨rights, (of_locate_eq_ok hroot).2⟩

theorem isEmpty_root : root.isEmpty = false :=
  isEmpty_of_resolve h.resolve_root

theorem utf8_of_find? {names : List Name} {e : Entry} (hnames : t.find? (names ++ loc) = some e) :
    ∀ n ∈ names, (Utf8.decode? n).isSome := by
  induction names generalizing e with
  | nil => simp
  | cons m names ih =>
      obtain ⟨rights, hdir⟩ := directory_of_find? hnames
      intro n hn
      rcases List.mem_cons.mp hn with rfl | hn
      · exact h.utf8 n names e hnames
      · exact ih hdir n hn

theorem list_under {names : List Name} {rights : Rights}
    (hdir : t.find? (names.reverse ++ loc) = some (.directory rights)) :
    t.list (root.under names) = .ok (t.children (names.reverse ++ loc)) := by
  obtain ⟨entries, hentries⟩ := h.listed names rights hdir
  obtain ⟨there, -, hresolve, -, -, hchildren⟩ := of_list_eq_ok hentries
  obtain ⟨r, hroot⟩ := h.find?_root
  have hthere := resolve_under h.resolve_root hroot h.noLink (isName_of_mem_down hdir) hresolve
  rw [hentries, hchildren, hthere]

theorem openRoot_eq : openRoot t root = .ok loc := by
  obtain ⟨rights, hroot⟩ := h.located
  obtain ⟨hresolve, hfind⟩ := of_locate_eq_ok hroot
  obtain ⟨entries, hentries⟩ := h.listed [] rights hfind
  obtain ⟨there, -, hthere, -, hopen, -⟩ := of_list_eq_ok hentries
  have heq : there = loc := by
    rw [Path.under, List.foldl_nil, hresolve, Except.ok.injEq] at hthere
    exact hthere.symm
  rw [Path.under, List.foldl_nil, heq] at hopen
  rw [openRoot, hroot]
  simp only [Entry.isDirectory, Bool.not_true, Bool.false_eq_true, if_false, hopen]

theorem walk_eq {fuel : Nat} {way : List Waypoint} {names : List Name} {rights : Rights}
    (hdir : t.find? (names.reverse ++ loc) = some (.directory rights)) :
    walk t fuel way ⟨root.under names, names.reverse ++ loc⟩ =
      (t.filesBelow fuel (names.reverse ++ loc)).map
        fun rest => .file (root.under (names ++ rest)) := by
  induction fuel generalizing way names rights with
  | zero => rfl
  | succ fuel ih =>
      rw [walk, h.list_under hdir, filesBelow, List.map_flatMap]
      refine List.flatMap_congr ?_
      rintro ⟨n, e⟩ hchild
      have hfind := mem_children.mp hchild
      have hdown := reverse_concat_append names n loc
      rw [visit, ← Path.under_concat]
      cases e with
      | file rights content => rfl
      | directory r =>
          have hrest := @ih (⟨root.under names, names.reverse ++ loc⟩ :: way) (names ++ [n]) r
            (hdown ▸ hfind)
          rw [hdown] at hrest
          simp only [hrest, List.map_map, List.append_assoc]
          rfl
      | link target => exact absurd hfind (h.noLink (n :: names.reverse) target)

theorem enumerate_eq (extension : String) (patterns : List IgnorePattern) :
    enumerate t root extension patterns =
      .ok (ofVisits root extension patterns
        ((t.filesBelow pathLimit loc).map fun names => .file (root.under names))) := by
  obtain ⟨rights, hfind⟩ := h.find?_root
  have hwalk : walk t pathLimit [] ⟨root, loc⟩ =
      (t.filesBelow pathLimit loc).map fun names => .file (root.under names) :=
    @walk_eq t root loc h pathLimit [] [] rights hfind
  rw [enumerate, h.openRoot_eq, Except.map, hwalk]

theorem length_le_pathLimit {names : List Name} {e : Entry}
    (hnames : t.find? (names.reverse ++ loc) = some e) (hne : names ≠ []) :
    names.length ≤ pathLimit := by
  obtain ⟨init, n, rfl⟩ := (List.eq_nil_or_concat' names).resolve_left hne
  rw [reverse_concat_append] at hnames
  obtain ⟨rights, hdir⟩ := directory_of_find? hnames
  obtain ⟨entries, hentries⟩ := h.listed init rights hdir
  obtain ⟨there, -, hresolve, -, -, -⟩ := of_list_eq_ok hentries
  have hshort := length_lt_of_resolve hresolve
  have hlong := Path.length_under h.isEmpty_root (isName_of_mem_down hdir)
  rw [List.length_append, List.length_singleton]
  omega

theorem mem_filesBelow_iff {names : List Name} :
    names ∈ t.filesBelow pathLimit loc ↔
      ∃ rights content, t.find? (names.reverse ++ loc) = some (.file rights content) := by
  rw [mem_filesBelow]
  constructor
  · exact fun hmem => hmem.2.2
  · rintro ⟨rights, content, hfile⟩
    have hne : names ≠ [] := by
      rintro rfl
      obtain ⟨r, hroot⟩ := h.find?_root
      rw [List.reverse_nil, List.nil_append, hroot] at hfile
      cases hfile
    exact ⟨hne, h.length_le_pathLimit hfile hne, rights, content, hfile⟩

end PlainBelow

end EntityGraph
