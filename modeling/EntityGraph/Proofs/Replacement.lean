import EntityGraph.Proofs.Siblings
/-!
Replacing a file, whatever goes wrong on the way. Directories come to stand where nothing stood, the
temporary sibling comes and goes, and only at the end does the new file stand in its place at once.
-/

namespace EntityGraph.FileTree

variable {t₀ t t' t'' : FileTree} {p : Path} {l x : Location} {content : List UInt8}
  {rights : Rights}

section Entries

theorem find?_put_of_not_admits {e : Entry} (h : ¬admits t.entries l e = true) : t.put l e = t := by
  unfold put
  rw [dif_neg h]

theorem isDirectory_eq_true : t.isDirectory l = true ↔
    ∃ rights, t.find? l = some (.directory rights) := by
  unfold isDirectory isDirectoryAt
  change (t.find? l).any Entry.isDirectory = true ↔ _
  cases t.find? l with
  | none => simp
  | some e => cases e <;> simp [Entry.isDirectory]

theorem mayChange_eq_true : t.mayChange l = true ↔
    ∃ n above rights, l = n :: above ∧ t.find? above = some (.directory rights) ∧
      rights.write = true := by
  unfold mayChange
  cases l with
  | nil => simp
  | cons n above => grind

theorem find?_append_of_file {rights : Rights} (h : t.find? l = some (.file rights content))
    {names : List Name} (hne : names ≠ []) : t.find? (names ++ l) = none := by
  cases hfind : t.find? (names ++ l) with
  | none => rfl
  | some e =>
      obtain ⟨r, hdir⟩ := directory_of_find?_append hne hfind
      rw [h] at hdir
      cases hdir

theorem find?_erase_of_file {rights : Rights} (h : t.find? l = some (.file rights content))
    (x : Location) : (t.erase l).find? x = if x = l then none else t.find? x :=
  lookup_without_of_leaf (fun _ hne => find?_append_of_file h hne) x

theorem number?_erase_of_file {rights : Rights} (h : t.find? l = some (.file rights content))
    (x : Location) : (t.erase l).number? x = if x = l then none else t.number? x :=
  lookup_without_of_leaf (fun _ hne => number?_of_missing (find?_append_of_file h hne)) x

theorem sameFile_erase_of_alone {rights : Rights} (h : t.find? l = some (.file rights content))
    (halone : t.Alone l) (x y : Location) : (t.erase l).sameFile x y = t.sameFile x y := by
  have hnames : SameNames t (t.erase l) l := by
    refine ⟨alone_of_number? ?_, fun x y hx hy => sameFile_congr ?_ ?_⟩
    · rw [number?_erase_of_file h, if_pos rfl]
    · rw [number?_erase_of_file h, if_neg hx]
    · rw [number?_erase_of_file h, if_neg hy]
  exact hnames.sameFile halone x y

theorem admits_of_mayChange {n : Name} {above : Location} {e : Entry} (hn : isEntryName n = true)
    (hmay : t.mayChange (n :: above) = true) (hdir : t.isDirectory (n :: above) = false) :
    admits t.entries (n :: above) e = true := by
  obtain ⟨n', above', rights, heq, habove, -⟩ := mayChange_eq_true.mp hmay
  cases heq
  have habove' : isDirectoryAt above t.entries = true := isDirectory_eq_true.mpr ⟨rights, habove⟩
  have hdir' : isDirectoryAt (n :: above) t.entries = false := hdir
  simp [admits, hn, habove', hdir']

end Entries

section Grown

structure Grown (t t' : FileTree) : Prop where
  working : t'.working = t.working
  find? : ∀ x, t'.find? x = t.find? x ∨
    (t.find? x = none ∧ t'.find? x = some (.directory allRights))
  number? : ∀ x, t'.number? x = t.number? x

theorem Grown.refl (t : FileTree) : Grown t t :=
  ⟨rfl, fun _ => .inl rfl, fun _ => rfl⟩

theorem Grown.trans (h : Grown t t') (h' : Grown t' t'') : Grown t t'' where
  working := h'.working.trans h.working
  find? x := by
    rcases h.find? x with hx | ⟨hx, hnew⟩
    · rcases h'.find? x with hx' | ⟨hx', hnew'⟩
      · exact .inl (hx'.trans hx)
      · exact .inr ⟨hx ▸ hx', hnew'⟩
    · rcases h'.find? x with hx' | ⟨hx', -⟩
      · exact .inr ⟨hx, hx'.trans hnew⟩
      · rw [hnew] at hx'
        cases hx'
  number? x := (h'.number? x).trans (h.number? x)

theorem Grown.find?_of_some (h : Grown t t') {e : Entry} (hx : t.find? x = some e) :
    t'.find? x = some e := by
  rcases h.find? x with hx' | ⟨hnone, -⟩
  · rw [hx', hx]
  · rw [hx] at hnone
    cases hnone

theorem Inherits.grown (h : Inherits t₀ t) (hgrown : Grown t t') : Inherits t₀ t' where
  working := hgrown.working.trans h.working
  link {x target} hlink := by
    rcases hgrown.find? x with hx | ⟨-, hnew⟩
    · exact h.link (hx ▸ hlink)
    · rw [hnew] at hlink
      cases hlink
  stays hlink := by
    obtain ⟨e, he, hnodir⟩ := h.stays hlink
    exact ⟨e, hgrown.find?_of_some he, hnodir⟩
  alone hx := (alone_congr hgrown.number?).mpr (h.alone hx)

theorem grown_put (h : t.find? l = none) : Grown t (t.put l (.directory allRights)) := by
  by_cases hadmits : admits t.entries l (.directory allRights) = true
  · refine ⟨by unfold put; rw [dif_pos hadmits], fun x => ?_, fun x => ?_⟩
    · rw [find?_put hadmits]
      by_cases hx : x = l
      · subst hx
        exact .inr ⟨h, if_pos rfl⟩
      · exact .inl (if_neg hx)
    · rw [number?_put hadmits]
      by_cases hx : x = l
      · rw [if_pos hx, hx, number?_of_missing h]
      · exact if_neg hx
  · rw [find?_put_of_not_admits hadmits]
    exact .refl t

theorem grown_makeDirectory (h : t.makeDirectory p = .ok t') : Grown t t' := by
  unfold makeDirectory create at h
  cases hplace : t.place p with
  | error e => rw [hplace] at h; cases h
  | ok l =>
      rw [hplace] at h
      simp only [bind, Except.bind] at h
      split at h
      · cases h
      · rename_i hmissing
        split at h
        · cases h
          exact grown_put hmissing
        · cases h

theorem grown_ensureDirectory (t : FileTree) (p : Path) : Grown t (t.ensureDirectory p).1 := by
  unfold ensureDirectory
  split
  · rename_i t' h
    exact grown_makeDirectory h
  · split <;> exact .refl t

theorem grown_makeChain (t : FileTree) (ps : List Path) : Grown t (t.makeChain ps).1 := by
  induction ps with
  | nil => exact .refl t
  | cons p above ih =>
      rw [makeChain]
      split
      · split
        · rename_i t' hchain
          rw [hchain] at ih
          exact ih.trans (grown_ensureDirectory t' p)
        · exact ih
      · exact grown_ensureDirectory t p

theorem grown_makeParent (t : FileTree) (p : Path) : Grown t (t.makeParent p).1 := by
  unfold makeParent
  split
  · exact .refl t
  · rename_i above _
    have hgrown := grown_makeChain t (ancestors (above.bytes.length + 1) above)
    split <;> rename_i hmake <;> rw [makeDirectories] at hmake <;> rw [hmake] at hgrown <;>
      exact hgrown

end Grown

section Operations

theorem of_write_eq_ok (h : t.write p content = .ok t') :
    ∃ l, t.resolve p = .ok l ∧
      ((t.find? l = none ∧ t.mayChange l = true ∧ t' = t.put l (.file fileRights content)) ∨
        ∃ rights old, t.find? l = some (.file rights old) ∧ t' = t.change l rights content) := by
  unfold write at h
  cases hresolve : t.resolve p with
  | error e => rw [hresolve] at h; cases h
  | ok l =>
      rw [hresolve] at h
      simp only [bind, Except.bind] at h
      split at h
      · rename_i hmissing
        split at h
        · rename_i hmay
          cases h
          exact ⟨l, rfl, .inl ⟨hmissing, hmay, rfl⟩⟩
        · cases h
      · rename_i rights old hfile
        split at h
        · cases h
          exact ⟨l, rfl, .inr ⟨rights, old, hfile, rfl⟩⟩
        · cases h
      · cases h

theorem of_rename_eq_ok {source target : Path} (h : t.rename source target = .ok t') :
    ∃ here there e, t.place source = .ok here ∧ t.place target = .ok there ∧
      endsInDot target = false ∧ target.endsInSlash = false ∧ t.find? here = some e ∧
      (t.sameFile here there = false → t.mayChange here = true ∧ t.mayChange there = true ∧
        t.isDirectory there = false ∧ t' = t.moveEntry here there e) := by
  unfold rename at h
  cases hhere : t.place source with
  | error e => rw [hhere] at h; cases h
  | ok here =>
      cases hthere : t.place target with
      | error e => rw [hhere, hthere] at h; cases h
      | ok there =>
          rw [hhere, hthere] at h
          simp only [bind, Except.bind] at h
          split at h
          · cases h
          · rename_i hdot
            split at h
            · cases h
            · rename_i e hfind
              split at h
              · cases h
              · rename_i hslash
                refine ⟨here, there, e, rfl, rfl, by simpa using hdot, by simpa using hslash, hfind,
                  ?_⟩
                intro hsame
                rw [if_neg (by simp [hsame])] at h
                split at h
                · cases h
                · rename_i hmay
                  split at h
                  · cases h
                  · rename_i hdir
                    cases h
                    simp only [Bool.not_eq_true, Bool.not_eq_false', Bool.and_eq_true] at hmay
                    exact ⟨hmay.1, hmay.2, by simpa using hdir, rfl⟩

theorem of_unlink_eq_ok (h : t.unlink p = .ok t') :
    ∃ l e, t.place p = .ok l ∧ t.find? l = some e ∧ e.isDirectory = false ∧ t' = t.erase l := by
  unfold unlink at h
  cases hplace : t.place p with
  | error e => rw [hplace] at h; cases h
  | ok l =>
      rw [hplace] at h
      simp only [bind, Except.bind] at h
      cases hfind : t.find? l with
      | none => grind
      | some e => exact ⟨l, e, rfl, hfind, by grind, by grind⟩

theorem unlink_of_place {e : Entry} (hplace : t.place p = .ok l) (hfind : t.find? l = some e)
    (hdir : e.isDirectory = false) (hmay : t.mayChange l = true) :
    t.unlink p = .ok (t.erase l) := by
  unfold unlink
  rw [hplace]
  simp [bind, Except.bind, hfind, hmay, hdir]

section Move

variable {here there : Location} (hfile : t.find? here = some (.file rights content))
  (hne : here ≠ there) (hadmits : admits t.entries there (.file rights content) = true)
include hfile hne hadmits

theorem find?_addName_here : (t.addName here there).find? here = some (.file rights content) := by
  rw [find?_addName hfile hadmits, if_neg hne, hfile]

theorem find?_moveEntry (x : Location) :
    (t.moveEntry here there (.file rights content)).find? x =
      if x = here then none else if x = there then some (.file rights content) else t.find? x := by
  rw [moveEntry, Entry.isFile, if_pos rfl,
    find?_erase_of_file (find?_addName_here hfile hne hadmits), find?_addName hfile hadmits]

theorem number?_moveEntry (x : Location) :
    (t.moveEntry here there (.file rights content)).number? x =
      if x = here then none else if x = there then some (numberFor t.numbers here)
      else t.number? x := by
  rw [moveEntry, Entry.isFile, if_pos rfl,
    number?_erase_of_file (find?_addName_here hfile hne hadmits), number?_addName hfile hadmits]
  by_cases hx : x = here <;> simp [hx]

omit hne in
theorem working_moveEntry :
    (t.moveEntry here there (.file rights content)).working = t.working :=
  working_addName hfile hadmits

theorem sameNames_moveEntry (halone : t.Alone here) :
    SameNames t (t.moveEntry here there (.file rights content)) there := by
  have hnumber := number?_moveEntry hfile hne hadmits
  have hhere : (t.moveEntry here there (.file rights content)).Alone here :=
    alone_of_number? (by rw [hnumber, if_pos rfl])
  constructor
  · intro y hsame
    rcases sameFile_iff.mp hsame with hthere | ⟨n, hn, hy⟩
    · exact hthere.symm
    rw [hnumber, if_neg hne.symm, if_pos rfl, Option.some.injEq] at hn
    by_contra hthere
    rw [hnumber, if_neg hthere] at hy
    split at hy
    · cases hy
    -- What shares its number with the moved file did so before, under the name that is gone.
    · rename_i hother
      rw [← hn] at hy
      exact hother (halone y (sameFile_iff.mpr (.inr ⟨_, lookup_of_numberFor hy, hy⟩)))
  · intro x y hx hy
    by_cases hxhere : x = here
    · rw [hxhere, hhere.sameFile, halone.sameFile]
    by_cases hyhere : y = here
    · rw [hyhere, sameFile_comm, hhere.sameFile, sameFile_comm t, halone.sameFile]
    exact sameFile_congr (by rw [hnumber, if_neg hxhere, if_neg hx])
      (by rw [hnumber, if_neg hyhere, if_neg hy])

end Move

end Operations

section Staged

def NoLinkBeside (t : FileTree) (p : Path) : Prop :=
  ∀ v target, t.way? (temporarySibling p) = some v → t.find? v.place ≠ some (.link target)

def AloneBeside (t : FileTree) (p : Path) : Prop :=
  ∀ v, t.way? (temporarySibling p) = some v → t.Alone v.place

structure ClearBeside (t : FileTree) (p : Path) : Prop where
  noLink : NoLinkBeside t p
  alone : AloneBeside t p

structure Filed (t t' : FileTree) (place : Location) (rights : Rights) (content : List UInt8) :
    Prop where
  working : t'.working = t.working
  find? : ∀ x, t'.find? x = if x = place then some (.file rights content) else t.find? x
  names : SameNames t t' place

theorem filed_put (hmissing : t.find? l = none)
    (h : admits t.entries l (.file rights content) = true) :
    Filed t (t.put l (.file rights content)) l rights content := by
  have hnumber := number?_of_missing hmissing
  refine ⟨by unfold put; rw [dif_pos h], find?_put h,
    sameNames_of_number? (alone_of_number? hnumber) fun x => ?_⟩
  rw [number?_put h]
  split
  · rename_i hx
    rw [hx, hnumber]
  · rfl

theorem filed_change {old : Rights} {bytes : List UInt8} (h : t.find? l = some (.file old bytes))
    (halone : t.Alone l) : Filed t (t.change l rights content) l rights content := by
  refine ⟨rfl, fun x => ?_, sameNames_of_number? halone fun _ => rfl⟩
  rw [find?_change h, halone.sameFile]
  simp only [decide_eq_true_eq, @eq_comm _ l x]

theorem Filed.inherits (h : Filed t t' l rights content) (hin : Inherits t₀ t) :
    Inherits t₀ t' where
  working := h.working.trans hin.working
  link {x target} hlink := by
    rw [h.find?] at hlink
    split at hlink
    · cases hlink
    · exact hin.link hlink
  stays {x target} hlink := by
    rw [h.find?]
    split
    · exact ⟨_, rfl, rfl⟩
    · exact hin.stays hlink
  alone hx := h.names.inherits_alone (hin.alone hx)

theorem Filed.mayChange (h : Filed t t' l rights content) (hmay : t.mayChange l = true) :
    t'.mayChange l = true := by
  obtain ⟨n, above, r, rfl, habove, hwrite⟩ := mayChange_eq_true.mp hmay
  refine mayChange_eq_true.mpr ⟨n, above, r, rfl, ?_, hwrite⟩
  rw [h.find?, if_neg (by simp), habove]

theorem Filed.mayChange_before (h : Filed t t' l rights content) (hmay : t'.mayChange x = true) :
    t.mayChange x = true := by
  obtain ⟨n, above, r, rfl, habove, hwrite⟩ := mayChange_eq_true.mp hmay
  rw [h.find?] at habove
  split at habove
  · cases habove
  · exact mayChange_eq_true.mpr ⟨n, above, r, rfl, habove, hwrite⟩

variable (hin : Inherits t₀ t) (hclear : ClearBeside t₀ p)
include hin hclear

theorem exists_way_of_sibling (h : t.resolve (temporarySibling p) = .ok l) :
    ∃ v, t₀.way? (temporarySibling p) = some v ∧ v.place = l ∧
      Reaches t (temporarySibling p) v := by
  obtain ⟨m, hplace, hm⟩ := exists_place_of_resolve h
  obtain ⟨v, hv, hvplace, hreaches⟩ :=
    exists_way_of_place hin (endsInDot_temporarySibling p) hplace
  refine ⟨v, hv, ?_, hreaches⟩
  rcases hm with rfl | ⟨target, htarget⟩
  · exact hvplace
  · rw [← hvplace] at htarget
    exact absurd (hin.link htarget) (hclear.noLink v target hv)

theorem exists_filed_of_write (h : t.write (temporarySibling p) content = .ok t') :
    ∃ v rights, t₀.way? (temporarySibling p) = some v ∧ Filed t t' v.place rights content ∧
      Reaches t (temporarySibling p) v ∧
      ((t.find? v.place = none ∧ t.mayChange v.place = true ∧ rights = fileRights) ∨
        ∃ old, t.find? v.place = some (.file rights old)) := by
  obtain ⟨l, hresolve, hbefore⟩ := of_write_eq_ok h
  obtain ⟨v, hv, rfl, hreaches⟩ := exists_way_of_sibling hin hclear hresolve
  rcases hbefore with ⟨hmissing, hmay, rfl⟩ | ⟨rights, old, hold, rfl⟩
  · refine ⟨v, fileRights, hv, filed_put hmissing ?_, hreaches, .inl ⟨hmissing, hmay, rfl⟩⟩
    obtain ⟨hfollow, -⟩ := resolveAs_eq hresolve
    obtain ⟨s, above, habove, hs⟩ :=
      isEntryName_of_steps (steps_temporarySibling_ne_nil p) hfollow hmissing
    rw [habove] at hmay hmissing ⊢
    refine admits_of_mayChange hs hmay ?_
    rw [Bool.eq_false_iff]
    intro hdir
    obtain ⟨r, hr⟩ := isDirectory_eq_true.mp hdir
    rw [hmissing] at hr
    cases hr
  · exact ⟨v, rights, hv, filed_change hold (hin.alone (hclear.alone v hv)), hreaches,
      .inr ⟨old, hold⟩⟩

/-- Of all that stood in the tree, at most a file at the temporary sibling is lost. -/
structure Spares (t₀ t t' : FileTree) (p : Path) : Prop where
  working : t'.working = t.working
  find? : ∀ x, t'.find? x = t.find? x ∨
    ∃ v rights old, t₀.way? (temporarySibling p) = some v ∧ x = v.place ∧
      t.find? x = some (.file rights old)
  same : ∀ x y, t'.sameFile x y = t.sameFile x y

omit hin hclear in
theorem Spares.refl (t₀ t : FileTree) (p : Path) : Spares t₀ t t p :=
  ⟨rfl, fun _ => .inl rfl, fun _ _ => rfl⟩

theorem spares_discard : Spares t₀ t (t.discard (temporarySibling p)) p := by
  unfold discard
  split
  · rename_i t' hunlink
    obtain ⟨l, e, hplace, hfind, hnodir, rfl⟩ := of_unlink_eq_ok hunlink
    obtain ⟨v, hv, rfl, -⟩ := exists_way_of_place hin (endsInDot_temporarySibling p) hplace
    cases e with
    | directory r => cases hnodir
    | link target => exact absurd (hin.link hfind) (hclear.noLink v target hv)
    | file r old =>
        refine ⟨rfl, fun x => ?_,
          sameFile_erase_of_alone hfind (hin.alone (hclear.alone v hv))⟩
        rw [find?_erase_of_file hfind]
        by_cases hx : x = v.place
        · exact .inr ⟨v, r, old, hv, hx, hx ▸ hfind⟩
        · exact .inl (if_neg hx)
  · exact .refl t₀ t p

theorem spares_write_discard (h : t.write (temporarySibling p) content = .ok t') :
    Spares t₀ t (t'.discard (temporarySibling p)) p := by
  obtain ⟨v, rights, hv, hfiled, hreaches, hbefore⟩ := exists_filed_of_write hin hclear h
  have hspares := spares_discard (hfiled.inherits hin) hclear
  have hsame := hfiled.names.sameFile (hin.alone (hclear.alone v hv))
  refine ⟨hspares.working.trans hfiled.working, fun x => ?_,
    fun x y => (hspares.same x y).trans (hsame x y)⟩
  by_cases hx : x = v.place
  · subst hx
    rcases hbefore with ⟨hmissing, hmay, -⟩ | ⟨old, hold⟩
    · have hfile : t'.find? v.place = some (.file rights content) := by
        rw [hfiled.find?, if_pos rfl]
      have hplace : t'.place (temporarySibling p) = .ok v.place := by
        refine hreaches t' false ⟨hfiled.working, ?_, ?_⟩ ?_
        · intro x r hdir
          rw [hfiled.find?, if_neg, hdir]
          rintro rfl
          rw [hmissing] at hdir
          cases hdir
        · intro x hx
          rw [hfiled.find?, if_neg]
          rintro rfl
          obtain ⟨target, htarget⟩ := isLink_of_mem_way? hv _ hx
          exact hclear.noLink v target hv htarget
        · intro e he
          rw [hfile] at he
          cases he
          exact ⟨rfl, rfl⟩
      have hdiscard : t'.discard (temporarySibling p) = t'.erase v.place := by
        rw [discard, unlink_of_place hplace hfile rfl (hfiled.mayChange hmay)]
      rw [hdiscard, find?_erase_of_file hfile, if_pos rfl, hmissing]
      exact .inl rfl
    · exact .inr ⟨v, rights, old, hv, rfl, hold⟩
  · have hkept : t'.find? x = t.find? x := by rw [hfiled.find?, if_neg hx]
    rcases hspares.find? x with hsame | ⟨v', r, old, hv', hx', -⟩
    · exact .inl (hsame.trans hkept)
    · rw [hv, Option.some.injEq] at hv'
      exact absurd (hv' ▸ hx') hx

end Staged

section Replaced

structure Replaced (t₀ t made t' : FileTree) (p : Path) (content : List UInt8) (v w : Way)
    (rights : Rights) : Prop where
  grown : Grown t made
  sibling : t₀.way? (temporarySibling p) = some v
  target : t₀.way? p = some w
  working : t'.working = t₀.working
  find? : ∀ x, t'.find? x =
    if x = v.place then none else if x = w.place then some (.file rights content) else made.find? x
  before : (made.find? v.place = none ∧ rights = fileRights) ∨
    ∃ old, made.find? v.place = some (.file rights old)
  names : SameNames made t' w.place
  noDirectory : ∀ r, made.find? w.place ≠ some (.directory r)
  mayChangeSibling : made.mayChange v.place = true
  mayChangeTarget : made.mayChange w.place = true
  slash : p.endsInSlash = false
  reaches : Reaches made p w
  reachesSibling : Reaches made (temporarySibling p) v

variable {made : FileTree} {v w : Way}

theorem Replaced.inherits (h : Replaced t₀ t made t' p content v w rights) (hin : Inherits t₀ t)
    (hclear : ClearBeside t₀ p) : Inherits t₀ t' where
  working := h.working
  link {x target} hx := by
    rw [h.find?] at hx
    split at hx
    · cases hx
    · split at hx
      · cases hx
      · exact (hin.grown h.grown).link hx
  stays {x target} hx := by
    rw [h.find?, if_neg]
    · split
      · exact ⟨_, rfl, rfl⟩
      · exact (hin.grown h.grown).stays hx
    · rintro rfl
      exact hclear.noLink v target h.sibling hx
  alone hx := h.names.inherits_alone ((hin.grown h.grown).alone hx)

theorem Replaced.noDirectorySibling (h : Replaced t₀ t made t' p content v w rights) (r : Rights) :
    made.find? v.place ≠ some (.directory r) := by
  intro hdir
  rcases h.before with ⟨hnone, -⟩ | ⟨old, hold⟩
  · rw [hdir] at hnone
    cases hnone
  · rw [hdir] at hold
    cases hold

theorem Replaced.find?_target (h : Replaced t₀ t made t' p content v w rights) :
    t'.find? w.place = some (.file rights content) := by
  rw [h.find?, if_neg (place_ne_sibling h.target h.sibling), if_pos rfl]

theorem admits_of_place {e : Entry} (hplace : t.place p = .ok l) (hdot : endsInDot p = false)
    (hmay : t.mayChange l = true) (hdir : t.isDirectory l = false) :
    admits t.entries l e = true := by
  obtain ⟨n, above, rights, rfl, -⟩ := mayChange_eq_true.mp hmay
  refine admits_of_mayChange ?_ hmay hdir
  cases hfind : t.find? (n :: above) with
  | some found => exact isEntryName_of_find? hfind
  | none =>
      obtain ⟨s, hlast, -⟩ := endsInDot_eq_false.mp hdot
      have hsteps : p.steps ≠ [] := by
        intro hnil
        rw [hnil] at hlast
        cases hlast
      obtain ⟨hfollow, -⟩ := resolveAs_eq hplace
      obtain ⟨m, there, heq, hm⟩ := isEntryName_of_steps hsteps hfollow hfind
      cases heq
      exact hm

theorem Reaches.of_filed (h : Reaches t' p w)
    (hfiled : Filed t t' l rights content) (hlinks : ∀ x ∈ w.links, x ≠ l) : Reaches t p w := by
  intro t'' followLast hretains hends
  refine h t'' followLast ⟨?_, ?_, ?_⟩ hends
  · rw [hretains.working, hfiled.working]
  · intro x r hdir
    rw [hfiled.find?] at hdir
    split at hdir
    · cases hdir
    · exact hretains.directory hdir
  · intro x hx
    rw [hretains.link x hx, hfiled.find?, if_neg (hlinks x hx)]

theorem exists_replaced_of_moveIn (hin : Inherits t₀ t) (hclear : ClearBeside t₀ p)
    (h : t.moveIn p content = (t', .ok ())) :
    ∃ v w rights, Replaced t₀ t t t' p content v w rights := by
  unfold moveIn at h
  split at h
  · cases h
  · rename_i written hwrite
    split at h
    · cases h
    · rename_i moved hrename
      cases h
      obtain ⟨v, rights, hv, hfiled, hreachesSibling, hbefore⟩ :=
        exists_filed_of_write hin hclear hwrite
      obtain ⟨here, there, e, hhere, hthere, hdot, hslash, hfind, hmoved⟩ :=
        of_rename_eq_ok hrename
      have hwritten := hfiled.inherits hin
      obtain ⟨v', hv', rfl, -⟩ :=
        exists_way_of_place hwritten (endsInDot_temporarySibling p) hhere
      obtain ⟨w, hw, rfl, hreaches⟩ := exists_way_of_place hwritten hdot hthere
      rw [hv, Option.some.injEq] at hv'
      subst hv'
      have hne := place_ne_sibling hw hv
      have halone := hfiled.names.alone
      obtain ⟨hmaySibling, hmay, hnodir, rfl⟩ :=
        hmoved (by rw [halone.sameFile, decide_eq_false hne.symm])
      have hfile : written.find? v.place = some (.file rights content) := by
        rw [hfiled.find?, if_pos rfl]
      rw [hfile] at hfind
      cases hfind
      have hadmits : admits written.entries w.place (.file rights content) = true :=
        admits_of_place hthere hdot hmay hnodir
      have hlinks : ∀ x ∈ w.links, x ≠ v.place := by
        rintro x hx rfl
        obtain ⟨target, htarget⟩ := isLink_of_mem_way? hw _ hx
        exact hclear.noLink v target hv htarget
      refine ⟨v, w, rights,
        { grown := .refl t
          sibling := hv
          target := hw
          working := (working_moveEntry hfile hadmits).trans hwritten.working
          find? := ?_
          before := ?_
          names := ?_
          noDirectory := ?_
          mayChangeSibling := hfiled.mayChange_before hmaySibling
          mayChangeTarget := hfiled.mayChange_before hmay
          slash := hslash
          reaches := hreaches.of_filed hfiled hlinks
          reachesSibling := hreachesSibling }⟩
      · intro x
        rw [find?_moveEntry hfile hne.symm hadmits]
        split
        · rfl
        · rename_i hx
          rw [hfiled.find?, if_neg hx]
      · rcases hbefore with ⟨hmissing, -, hrights⟩ | hold
        · exact .inl ⟨hmissing, hrights⟩
        · exact .inr hold
      · have hsame := hfiled.names.sameFile (hin.alone (hclear.alone v hv))
        have hmove := sameNames_moveEntry hfile hne.symm hadmits halone
        exact ⟨hmove.alone, fun x y hx hy => (hmove.same x y hx hy).trans (hsame x y)⟩
      · intro r hr
        have hdir : written.isDirectory w.place = true := by
          refine isDirectory_eq_true.mpr ⟨r, ?_⟩
          rw [hfiled.find?, if_neg hne, hr]
        rw [hnodir] at hdir
        cases hdir

theorem exists_replaced (hin : Inherits t₀ t) (hclear : ClearBeside t₀ p)
    (h : t.replace p content = (t', .ok ())) :
    ∃ made v w rights, t.makeParent p = (made, .ok ()) ∧
      Replaced t₀ t made t' p content v w rights := by
  unfold replace at h
  split at h
  · cases h
  · rename_i made hmade
    have hgrown : Grown t made := by
      have hparent := grown_makeParent t p
      rwa [hmade] at hparent
    split at h
    · rename_i moved hmove
      cases h
      obtain ⟨v, w, rights, hreplaced⟩ :=
        exists_replaced_of_moveIn (hin.grown hgrown) hclear hmove
      exact ⟨made, v, w, rights, hmade, { hreplaced with grown := hgrown }⟩
    · cases h

end Replaced

section Interrupted

/-- Where a replacement may break off although the tree lets it go on: with so many parents still to
be made, at the creation of the sibling, or after so many bytes of it. With all bytes written, what
breaks off is the move. -/
inductive Stage where
  | makingParents (left : Nat)
  | creating
  | writing (count : Nat)
  deriving DecidableEq, Repr

structure Interruption where
  stage : Stage
  cause : FileError
  deriving DecidableEq, Repr

def interrupt (t : FileTree) (p : Path) (content : List UInt8) (i : Interruption) :
    FileTree × Except ReplaceError Unit :=
  match i.stage, p.parent? with
  | .makingParents left, some above =>
      ((t.makeChain ((ancestors (above.bytes.length + 1) above).drop left)).1,
        .error ⟨above, i.cause⟩)
  | stage, _ =>
      match t.makeParent p with
      | (t', .error e) => (t', .error e)
      | (t', .ok ()) =>
          match stage with
          | .writing count =>
              match t'.write (temporarySibling p) (content.take count) with
              | .ok t'' => (t''.discard (temporarySibling p), .error ⟨p, i.cause⟩)
              | .error e => (t'.discard (temporarySibling p), .error ⟨p, e⟩)
          | _ => (t'.discard (temporarySibling p), .error ⟨p, i.cause⟩)

/-- A replacement that breaks off where it is told to, if anywhere. -/
def replaceUnder (i : Option Interruption) (t : FileTree) (p : Path) (content : List UInt8) :
    FileTree × Except ReplaceError Unit :=
  match i with
  | none => t.replace p content
  | some i => t.interrupt p content i

def makeParentUnder (i : Option Interruption) (t : FileTree) (p : Path) :
    FileTree × Except ReplaceError Unit :=
  match i with
  | none => t.makeParent p
  | some i =>
      match i.stage, p.parent? with
      | .makingParents left, some above =>
          ((t.makeChain ((ancestors (above.bytes.length + 1) above).drop left)).1,
            .error ⟨above, i.cause⟩)
      | _, _ => t.makeParent p

theorem makeParentUnder_of_later {i : Interruption}
    (h : ∀ left above, i.stage = .makingParents left → p.parent? = some above → False) :
    t.makeParentUnder (some i) p = t.makeParent p := by
  rw [makeParentUnder]
  split
  · rename_i left above hstage hparent
    exact (h left above hstage hparent).elim
  · rfl

theorem grown_makeParentUnder (i : Option Interruption) (t : FileTree) (p : Path) :
    Grown t (t.makeParentUnder i p).1 := by
  unfold makeParentUnder
  split
  · exact grown_makeParent t p
  · split
    · exact grown_makeChain t _
    · exact grown_makeParent t p

structure Discarded (t₀ made t' : FileTree) (p : Path) : Prop where
  spares : Spares t₀ made t' p
  discard : ∃ u, Inherits t₀ u ∧ t' = u.discard (temporarySibling p)

theorem discarded (hin : Inherits t₀ t) (hclear : ClearBeside t₀ p) :
    Discarded t₀ t (t.discard (temporarySibling p)) p :=
  ⟨spares_discard hin hclear, t, hin, rfl⟩

theorem discarded_of_write (hin : Inherits t₀ t) (hclear : ClearBeside t₀ p)
    (h : t.write (temporarySibling p) content = .ok t') :
    Discarded t₀ t (t'.discard (temporarySibling p)) p := by
  obtain ⟨v, rights, -, hfiled, -⟩ := exists_filed_of_write hin hclear h
  exact ⟨spares_write_discard hin hclear h, t', hfiled.inherits hin, rfl⟩

theorem of_replace_eq_error (hin : Inherits t₀ t) (hclear : ClearBeside t₀ p) {e : ReplaceError}
    (h : t.replace p content = (t', .error e)) :
    t.makeParent p = (t', .error e) ∨
      ∃ made, t.makeParent p = (made, .ok ()) ∧ Discarded t₀ made t' p := by
  have hgrown := grown_makeParent t p
  unfold replace at h
  split at h
  · rename_i made e' hmade
    cases h
    exact .inl hmade
  · rename_i made hmade
    rw [hmade] at hgrown
    have hmadeIn := hin.grown hgrown
    refine .inr ⟨made, hmade, ?_⟩
    unfold moveIn at h
    split at h
    · cases h
    · rename_i moved cause hmove
      split at hmove
      · cases hmove
        cases h
        exact discarded hmadeIn hclear
      · rename_i written hwrite
        split at hmove
        · cases hmove
          cases h
          exact discarded_of_write hmadeIn hclear hwrite
        · cases hmove

theorem of_interrupt (hin : Inherits t₀ t) (hclear : ClearBeside t₀ p) (content : List UInt8)
    (i : Interruption) :
    ∃ t' e, t.interrupt p content i = (t', .error e) ∧
      (t.makeParentUnder (some i) p = (t', .error e) ∨
        ∃ made, t.makeParentUnder (some i) p = (made, .ok ()) ∧ Discarded t₀ made t' p) := by
  have hgrown := grown_makeParent t p
  unfold interrupt
  split
  · rename_i left above hstage hparent
    exact ⟨_, _, rfl, .inl (by simp only [makeParentUnder, hstage, hparent])⟩
  · rename_i hlater
    rw [makeParentUnder_of_later hlater]
    split
    · rename_i made e hmade
      exact ⟨made, e, rfl, .inl hmade⟩
    · rename_i made hmade
      rw [hmade] at hgrown
      have hmadeIn := hin.grown hgrown
      split
      · split
        · rename_i written hwrite
          exact ⟨_, _, rfl, .inr ⟨made, hmade, discarded_of_write hmadeIn hclear hwrite⟩⟩
        · exact ⟨_, _, rfl, .inr ⟨made, hmade, discarded hmadeIn hclear⟩⟩
      · exact ⟨_, _, rfl, .inr ⟨made, hmade, discarded hmadeIn hclear⟩⟩

theorem of_replaceUnder_eq_error {i : Option Interruption} (hin : Inherits t₀ t)
    (hclear : ClearBeside t₀ p) {e : ReplaceError}
    (h : t.replaceUnder i p content = (t', .error e)) :
    t.makeParentUnder i p = (t', .error e) ∨
      ∃ made, t.makeParentUnder i p = (made, .ok ()) ∧ Discarded t₀ made t' p := by
  cases i with
  | none => exact of_replace_eq_error hin hclear h
  | some i =>
      obtain ⟨u, e', hu, hcases⟩ := of_interrupt hin hclear content i
      rw [replaceUnder, hu] at h
      cases h
      exact hcases

theorem replace_of_replaceUnder_eq_ok {i : Option Interruption} (hin : Inherits t₀ t)
    (hclear : ClearBeside t₀ p) (h : t.replaceUnder i p content = (t', .ok ())) :
    t.replace p content = (t', .ok ()) := by
  cases i with
  | none => exact h
  | some i =>
      obtain ⟨u, e, hu, -⟩ := of_interrupt hin hclear content i
      rw [replaceUnder, hu] at h
      cases h

end Interrupted

end EntityGraph.FileTree
