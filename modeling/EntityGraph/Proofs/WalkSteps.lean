import EntityGraph.Proofs.UnchangedCorpus
import Mathlib.Data.Finset.Card

namespace EntityGraph

namespace FileTree

variable {t : FileTree} {links : Nat} {loc l : Location} {steps : List Name} {slash last : Bool}
  {s n : Name} {p : Path} {e : Entry}

section Links

def IsLinkAt (t : FileTree) (loc : Location) : Prop :=
  ∃ target, t.find? loc = some (.link target)

theorem not_isLinkAt_of_directory {rights : Rights} (h : t.find? loc = some (.directory rights)) :
    ¬IsLinkAt t loc := by
  rintro ⟨target, hlink⟩
  rw [h] at hlink
  cases hlink

theorem not_isLinkAt_of_arrive (h : step t true last loc s = .arrive) : ¬IsLinkAt t (s :: loc) := by
  rintro ⟨target, hlink⟩
  unfold step at h
  grind

theorem not_isLinkAt_of_go {next : Location} (h : step t true last loc s = .go next) :
    ¬IsLinkAt t next := by
  obtain ⟨rights, hloc⟩ := directory_of_step h nofun
  rcases of_step_eq_go h with ⟨-, rfl⟩ | ⟨-, rfl⟩ | ⟨rfl, r, hnext⟩
  · exact not_isLinkAt_of_directory hloc
  · cases loc with
    | nil => exact not_isLinkAt_of_directory hloc
    | cons n above =>
        obtain ⟨r, habove⟩ := directory_of_find? hloc
        exact not_isLinkAt_of_directory habove
  · exact not_isLinkAt_of_directory hnext

theorem not_isLinkAt_of_leads (htop : ¬IsLinkAt t []) (h : Leads t true links loc steps slash l)
    (hloc : steps = [] → ¬IsLinkAt t loc) : ¬IsLinkAt t l := by
  induction h with
  | nil => exact hloc rfl
  | arrive hstep => exact not_isLinkAt_of_arrive hstep
  | go hstep _ ih => exact ih fun _ => not_isLinkAt_of_go hstep
  | jump hstep _ ih =>
      obtain ⟨rights, hdir⟩ := directory_of_step hstep nofun
      refine ih fun _ => ?_
      rw [startOf]
      split
      · exact htop
      · exact not_isLinkAt_of_directory hdir

end Links

section Access

theorem openDirectory_eq_ok_iff :
    t.openDirectory p = .ok l ↔
      ∃ rights, t.locate p = .ok (l, .directory rights) ∧ rights.read = true := by
  unfold openDirectory
  cases hlocate : t.locate p with
  | error e => simp [bind, Except.bind]
  | ok found =>
      obtain ⟨there, e⟩ := found
      cases e with
      | directory rights =>
          cases hread : rights.read <;> simp [bind, Except.bind, hread]
      | file rights content => simp [bind, Except.bind]
      | link target => simp [bind, Except.bind]

theorem locate_joinName_ne_link {there : Location} {target : Path}
    (hopen : t.openDirectory p = .ok l) (hfind : t.find? (n :: l) = some e) :
    t.locate (p.joinName n) ≠ .ok (there, .link target) := by
  intro h
  obtain ⟨hthere, hlink⟩ := of_locate_eq_ok h
  obtain ⟨rights, hresolve, -⟩ := of_openDirectory_eq_ok hopen
  have htop : ¬IsLinkAt t [] := by
    have hfind' : t.find? (n :: l ++ []) = some e := by rwa [List.append_nil]
    obtain ⟨r, hroot⟩ := directory_of_find?_append (List.cons_ne_nil n l) hfind'
    exact not_isLinkAt_of_directory hroot
  have hsteps := steps_joinName (isName_of_find? hfind) (isEmpty_of_resolve hresolve)
  have hleads := leads_of_follow _ _ (follow_of_resolve hthere)
  exact not_isLinkAt_of_leads htop hleads (by simp [hsteps]) ⟨target, hlink⟩

theorem location_of_openDirectory {there : Location} (hopen : t.openDirectory p = .ok l)
    (hfind : t.find? (n :: l) = some e) (hlink : ¬IsLinkAt t (n :: l))
    (hthere : t.openDirectory (p.joinName n) = .ok there) : there = n :: l := by
  obtain ⟨r, hresolve, hdir⟩ := of_openDirectory_eq_ok hopen
  obtain ⟨-, hresolve', -⟩ := of_openDirectory_eq_ok hthere
  exact resolve_joinName (isName_of_find? hfind) hresolve hdir (not_exists.mp hlink) hresolve'

end Access

end FileTree

namespace Enumeration

open FileTree

variable {t : FileTree} {go : List Waypoint → Waypoint → List Visit} {way : List Waypoint}
  {here next : Waypoint} {c : Name × Entry} {l : Location}

section Entry

def IsFileAt (t : FileTree) (path : Path) : Entry → Prop
  | .file .. => True
  | .directory _ => False
  | .link _ => ∃ loc rights content, t.locate path = .ok (loc, .file rights content)

/-- The walk goes on at the entry: in a directory, or behind a link to a directory that can be
listed and that the way has not led through. -/
inductive Enters (t : FileTree) (way : List Waypoint) (here : Waypoint) :
    Name × Entry → Waypoint → Prop where
  | directory {n : Name} {rights : Rights} :
      Enters t way here (n, .directory rights) ⟨here.path.joinName n, n :: here.location⟩
  | link {n : Name} {p : Path} {target : Location}
      (hopen : t.openDirectory (here.path.joinName n) = .ok target)
      (hway : ∀ w ∈ way, w.location ≠ target) :
      Enters t way here (n, .link p) ⟨here.path.joinName n, target⟩

theorem visit_of_enters (h : Enters t way here c next) : visit t go way here c = go way next := by
  cases h with
  | directory => rfl
  | link hopen hway =>
      obtain ⟨rights, hlocate, hread⟩ := openDirectory_eq_ok_iff.mp hopen
      simp only [visit, hlocate, hread, Bool.not_true, Bool.false_eq_true, if_false]
      rw [List.find?_eq_none.mpr fun w hw => by simpa using hway w hw]

theorem visit_of_isFileAt (h : IsFileAt t (here.path.joinName c.1) c.2) :
    visit t go way here c = [.file (here.path.joinName c.1)] := by
  obtain ⟨n, e⟩ := c
  cases e with
  | file rights content => rfl
  | directory rights => exact h.elim
  | link target =>
      obtain ⟨loc, rights, content, hlocate⟩ := h
      simp only [visit, hlocate]

theorem visit_cases (way : List Waypoint) (hopen : t.openDirectory here.path = .ok l)
    (hc : c ∈ t.children l) :
    (∃ next, Enters t way here c next) ∨ IsFileAt t (here.path.joinName c.1) c.2 ∨
      ∃ failure, ∀ go, visit t go way here c = [.failed failure] := by
  obtain ⟨n, e⟩ := c
  have hnolink := @locate_joinName_ne_link t l n here.path e
  cases e with
  | file rights content => exact .inr (.inl trivial)
  | directory rights => exact .inl ⟨_, .directory⟩
  | link target =>
      cases hlocate : t.locate (here.path.joinName n) with
      | error e => exact .inr (.inr ⟨_, fun go => by simp only [visit, hlocate]; rfl⟩)
      | ok found =>
          obtain ⟨there, e⟩ := found
          cases e with
          | file rights content => exact .inr (.inl ⟨there, rights, content, hlocate⟩)
          | link p => exact absurd hlocate (hnolink hopen (mem_children.mp hc))
          | directory rights =>
              cases hread : rights.read with
              | false => exact .inr (.inr ⟨_, fun go => by simp [visit, hlocate, hread]; rfl⟩)
              | true =>
                  cases hway : way.find? (·.location = there) with
                  | none =>
                      refine .inl ⟨_, .link (openDirectory_eq_ok_iff.mpr ⟨rights, hlocate, hread⟩) ?_⟩
                      simpa using hway
                  | some ancestor =>
                      exact .inr (.inr ⟨_, fun go => by simp [visit, hlocate, hread, hway]; rfl⟩)

end Entry

section Way

def Stands (t : FileTree) (here : Waypoint) : Prop :=
  ∀ l, t.openDirectory here.path = .ok l → here.location = l

theorem Enters.path_eq (h : Enters t way here c next) : next.path = here.path.joinName c.1 := by
  cases h <;> rfl

theorem Enters.stands (h : Enters t way here c next)
    (hopen : t.openDirectory here.path = .ok here.location) (hc : c ∈ t.children here.location) :
    Stands t next := by
  intro there hthere
  cases h with
  | directory =>
      have hfind := mem_children.mp hc
      exact (location_of_openDirectory hopen hfind (not_isLinkAt_of_directory hfind) hthere).symm
  | link htarget _ => exact Except.ok.inj (htarget.symm.trans hthere)

def EndsWithin (t : FileTree) : Nat → List Waypoint → Waypoint → Prop
  | 0, _, _ => False
  | levels + 1, way, here =>
      ∀ entries, t.list here.path = .ok entries → ∀ c ∈ entries, ∀ next,
        Enters t (here :: way) here c next → EndsWithin t levels (here :: way) next

theorem walk_eq_of_endsWithin {levels fuel : Nat} (h : EndsWithin t levels way here)
    (hfuel : levels ≤ fuel) : walk t fuel way here = walk t levels way here := by
  induction levels generalizing fuel way here with
  | zero => exact h.elim
  | succ levels ih =>
      obtain ⟨fuel, rfl⟩ := Nat.exists_eq_add_of_le' (Nat.one_le_of_lt hfuel)
      rw [walk, walk]
      cases hlist : t.list here.path with
      | error e => rfl
      | ok entries =>
          obtain ⟨l, rights, -, -, hopen, rfl⟩ := of_list_eq_ok hlist
          refine List.flatMap_congr fun c hc => ?_
          rcases visit_cases (here :: way) hopen hc with ⟨next, hnext⟩ | hfile | ⟨failure, hfailed⟩
          · rw [visit_of_enters hnext, visit_of_enters hnext]
            exact ih (h _ hlist c hc next hnext) (Nat.le_of_succ_le_succ hfuel)
          · rw [visit_of_isFileAt hfile, visit_of_isFileAt hfile]
          · rw [hfailed, hfailed]

theorem endsWithin_of_pathLimit (levels : Nat) :
    ∀ {way : List Waypoint} {here : Waypoint}, pathLimit ≤ levels + here.path.bytes.length →
      EndsWithin t (levels + 1) way here := by
  induction levels with
  | zero =>
      intro way here hlength entries hlist
      obtain ⟨l, rights, hresolve, -⟩ := of_list_eq_ok hlist
      have hshort := length_lt_of_resolve hresolve
      omega
  | succ levels ih =>
      intro way here hlength entries hlist c hc next hnext
      obtain ⟨l, rights, hresolve, -, -, rfl⟩ := of_list_eq_ok hlist
      have hlonger := Path.length_joinName (isEmpty_of_resolve hresolve)
        (isName_of_find? (mem_children.mp hc))
      rw [← hnext.path_eq] at hlonger
      exact ih (by omega)

end Way

section Levels

def places (t : FileTree) : Finset Location :=
  (t.entries.map (·.1)).toFinset

def height (t : FileTree) : Nat :=
  (t.entries.map (·.1.length)).foldr Nat.max 0

theorem mem_places {e : Entry} (h : t.find? l = some e) : l ∈ places t :=
  List.mem_toFinset.mpr (List.mem_map.mpr ⟨_, mem_entries_of_find? h, rfl⟩)

theorem le_foldr_max {k : Nat} {ks : List Nat} (h : k ∈ ks) : k ≤ ks.foldr Nat.max 0 := by
  induction ks with
  | nil => cases h
  | cons j ks ih =>
      rcases List.mem_cons.mp h with rfl | h
      · exact Nat.le_max_left _ _
      · exact Nat.le_trans (ih h) (Nat.le_max_right _ _)

theorem length_le_height {e : Entry} (h : t.find? l = some e) : l.length ≤ height t :=
  le_foldr_max (List.mem_map.mpr ⟨_, mem_entries_of_find? h, rfl⟩)

def unmet (t : FileTree) (way : List Waypoint) : Finset Location :=
  places t \ (way.map (·.location)).toFinset

theorem card_unmet_cons_le (next : Waypoint) (way : List Waypoint) :
    (unmet t (next :: way)).card ≤ (unmet t way).card := by
  refine Finset.card_le_card (Finset.sdiff_subset_sdiff (Finset.Subset.refl _) ?_)
  intro l hl
  simp only [List.map_cons, List.toFinset_cons, Finset.mem_insert]
  exact .inr hl

theorem card_unmet_cons_lt {e : Entry} (next : Waypoint) (way : List Waypoint)
    (hfind : t.find? next.location = some e) (hway : ∀ w ∈ way, w.location ≠ next.location) :
    (unmet t (next :: way)).card < (unmet t way).card := by
  have hmem : next.location ∈ unmet t way := by
    simpa [unmet, mem_places hfind] using hway
  have herase : unmet t (next :: way) ⊆ (unmet t way).erase next.location := by
    intro l hl
    simp only [unmet, List.map_cons, List.toFinset_cons, Finset.mem_sdiff, Finset.mem_insert,
      not_or] at hl
    exact Finset.mem_erase.mpr ⟨hl.2.1, Finset.mem_sdiff.mpr ⟨hl.1, hl.2.2⟩⟩
  exact (Finset.card_le_card herase).trans_lt (Finset.card_erase_lt_of_mem hmem)

/-- A link leads to a place not met before on the way, and what is no link leads further down. -/
def levelsLeft (t : FileTree) (way : List Waypoint) (here : Waypoint) : Nat :=
  (unmet t (here :: way)).card * (height t + 1) + (height t - here.location.length)

theorem levelsLeft_lt_of_enters (h : Enters t (here :: way) here c next)
    (hc : c ∈ t.children here.location) :
    levelsLeft t (here :: way) next < levelsLeft t way here := by
  unfold levelsLeft
  cases h with
  | @directory n rights =>
      have hcard := card_unmet_cons_le (t := t) ⟨here.path.joinName n, n :: here.location⟩
        (here :: way)
      have hlength := length_le_height (mem_children.mp hc)
      have hmul := Nat.mul_le_mul_right (height t + 1) hcard
      simp only [List.length_cons] at hlength ⊢
      omega
  | @link n p target hopen hway =>
      obtain ⟨rights, -, hdir⟩ := of_openDirectory_eq_ok hopen
      have hcard := card_unmet_cons_lt ⟨here.path.joinName n, target⟩ (here :: way) hdir hway
      have hmul := Nat.mul_le_mul_right (height t + 1) (Nat.succ_le_of_lt hcard)
      rw [Nat.succ_mul] at hmul
      omega

theorem endsWithin_of_levelsLeft (levels : Nat) :
    ∀ {way : List Waypoint} {here : Waypoint}, Stands t here → levelsLeft t way here < levels →
      EndsWithin t levels way here := by
  induction levels with
  | zero => exact fun _ h => absurd h (Nat.not_lt_zero _)
  | succ levels ih =>
      intro way here hstands hleft entries hlist c hc next hnext
      obtain ⟨l, rights, -, -, hopen, rfl⟩ := of_list_eq_ok hlist
      obtain rfl := hstands l hopen
      have hless := levelsLeft_lt_of_enters hnext hc
      exact ih (hnext.stands hopen hc) (by omega)

def levelBound (t : FileTree) : Nat :=
  t.entries.length * (height t + 1)

theorem levelsLeft_lt_levelBound {e : Entry} (root : Path) (h : t.find? l = some e) :
    levelsLeft t [] ⟨root, l⟩ < levelBound t := by
  have hcard := card_unmet_cons_lt ⟨root, l⟩ [] h (by simp)
  have hplaces : (unmet t []).card ≤ t.entries.length := by
    rw [← List.length_map (·.1)]
    exact (Finset.card_le_card Finset.sdiff_subset).trans (List.toFinset_card_le _)
  have hmul := Nat.mul_le_mul_right (height t + 1) (Nat.succ_le_of_lt (hcard.trans_le hplaces))
  rw [Nat.succ_mul] at hmul
  unfold levelsLeft levelBound
  omega

end Levels

section End

variable {root : Path}

theorem walk_eq_of_le {fuel : Nat} (hopen : t.openDirectory root = .ok l)
    (hfuel : min pathLimit (levelBound t) ≤ fuel) :
    walk t fuel [] ⟨root, l⟩ = walk t pathLimit [] ⟨root, l⟩ := by
  obtain ⟨rights, hresolve, hdir⟩ := of_openDirectory_eq_ok hopen
  have hlimit : EndsWithin t pathLimit [] ⟨root, l⟩ := by
    have hne := isEmpty_of_resolve hresolve
    have hlength : root.bytes ≠ [] := by simpa [Path.isEmpty] using hne
    have hpos := List.length_pos_iff.mpr hlength
    exact endsWithin_of_pathLimit (pathLimit - 1) (by simp only [pathLimit]; omega)
  have hbound : EndsWithin t (levelBound t) [] ⟨root, l⟩ :=
    endsWithin_of_levelsLeft _ (fun there hthere => Except.ok.inj (hopen.symm.trans hthere))
      (levelsLeft_lt_levelBound root hdir)
  rcases Nat.le_total pathLimit (levelBound t) with hle | hle
  · rw [Nat.min_eq_left hle] at hfuel
    exact walk_eq_of_endsWithin hlimit hfuel
  · rw [Nat.min_eq_right hle] at hfuel
    rw [walk_eq_of_endsWithin hbound hfuel, walk_eq_of_endsWithin hbound hle]

end End

end Enumeration

end EntityGraph
