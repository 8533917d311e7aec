import EntityGraph.Proofs.Replacement
import EntityGraph.Proofs.Trails

namespace EntityGraph.FileTree

variable {t₀ t t' t'' made u : FileTree} {p : Path} {l x : Location} {v w : Way}
  {content old : List UInt8} {rights rights' : Rights}

structure Preserves (t t' : FileTree) : Prop where
  working : t'.working = t.working
  stays : ∀ {x e}, t.find? x = some e → (e.isDirectory || e.isLink) = true → t'.find? x = some e

section Preserves

theorem Preserves.trans (h : Preserves t t') (h' : Preserves t' t'') : Preserves t t'' :=
  ⟨h'.working.trans h.working, fun hx he => h'.stays (h.stays hx he) he⟩

theorem Grown.preserves (h : Grown t t') : Preserves t t' :=
  ⟨h.working, fun hx _ => h.find?_of_some hx⟩

theorem Filed.preserves (h : Filed t t' l rights content)
    (hfile : ∀ e, t.find? l = some e → (e.isDirectory || e.isLink) = false) : Preserves t t' := by
  refine ⟨h.working, fun {x e} hx he => ?_⟩
  rw [h.find?, if_neg, hx]
  rintro rfl
  rw [hfile e hx] at he
  cases he

theorem Replaced.preserves (h : Replaced t₀ t made t' p content v w rights)
    (hworking : made.working = t₀.working)
    (hlink : ∀ target, made.find? w.place ≠ some (.link target)) : Preserves made t' := by
  refine ⟨h.working.trans hworking.symm, fun {x e} hx he => ?_⟩
  rw [h.find?, if_neg, if_neg, hx]
  · rintro rfl
    cases e with
    | directory r => exact h.noDirectory r hx
    | link target => exact hlink target hx
    | file r old => cases he
  · rintro rfl
    rcases h.before with ⟨hnone, -⟩ | ⟨old, hold⟩
    · rw [hx] at hnone
      cases hnone
    · rw [hx, Option.some.injEq] at hold
      subst hold
      cases he

theorem Preserves.retains (h : Preserves t t') {links : List Location}
    (hlinks : ∀ x ∈ links, ∃ target, t.find? x = some (.link target)) : Retains t t' links := by
  refine ⟨h.working, fun hx => h.stays hx rfl, fun x hx => ?_⟩
  obtain ⟨target, htarget⟩ := hlinks x hx
  rw [h.stays htarget rfl, htarget]

theorem Preserves.mayChange (h : Preserves t t') (hmay : t.mayChange l = true) :
    t'.mayChange l = true := by
  obtain ⟨n, above, r, rfl, habove, hwrite⟩ := mayChange_eq_true.mp hmay
  exact mayChange_eq_true.mpr ⟨n, above, r, rfl, h.stays habove rfl, hwrite⟩

end Preserves

section Parents

theorem makeDirectories_of_resolve (h : t.resolve p = .ok l)
    (hdir : t.find? l = some (.directory rights)) : t.makeDirectories p = (t, .ok ()) := by
  have hmake : t.makeDirectory p = .error .alreadyExists := by
    obtain ⟨m, hplace, hm⟩ := exists_place_of_resolve h
    have hsome : ∃ e, t.find? m = some e := by
      rcases hm with rfl | ⟨target, htarget⟩
      · exact ⟨_, hdir⟩
      · exact ⟨_, htarget⟩
    obtain ⟨e, he⟩ := hsome
    rw [makeDirectory, create, hplace]
    simp only [bind, Except.bind, he]
  have hensure : t.ensureDirectory p = (t, .ok ()) := by
    rw [ensureDirectory, hmake]
    simp [isDirectoryPath, locate_of_resolve h hdir, Entry.isDirectory]
  have hempty := isEmpty_of_resolve h
  rw [makeDirectories, ancestors, if_neg (by simp [hempty]), makeChain, hmake]
  exact hensure

theorem makeDirectories_of_isEmpty (h : p.isEmpty = true) : t.makeDirectories p = (t, .ok ()) := by
  rw [makeDirectories, ancestors, if_pos h, makeChain]

theorem makeParent_of_resolve {n : Name} (hname : p.fileName? = some n)
    (htemporary : Path.isName (temporaryName p) = true)
    (h : t.resolve (temporarySibling p) = .ok l) : t.makeParent p = (t, .ok ()) := by
  unfold makeParent
  cases hparent : p.parent? with
  | none => rfl
  | some above =>
      have hmake : t.makeDirectories above = (t, .ok ()) := by
        by_cases hempty : above.isEmpty = true
        · exact makeDirectories_of_isEmpty hempty
        · have hsibling : temporarySibling p = above.joinName (temporaryName p) := by
            simp only [temporarySibling, Path.withFileName, temporaryName, hname, hparent,
              Option.getD_some]
          rw [hsibling] at h
          obtain ⟨there, r, hthere, hdir⟩ := exists_directory_of_joinName htemporary
            (by simpa using hempty) h
          exact makeDirectories_of_resolve hthere hdir
      simp only [hmake]

end Parents

section Operations

theorem ends_of_file (h : t.find? l = some (.file rights content)) : Ends t l := by
  intro e he
  rw [h] at he
  cases he
  exact ⟨rfl, rfl⟩

theorem write_of_missing (h : t.resolve p = .ok l) (hmissing : t.find? l = none)
    (hmay : t.mayChange l = true) :
    t.write p content = .ok (t.put l (.file fileRights content)) := by
  rw [write, h]
  simp only [bind, Except.bind, hmissing, hmay, if_true]

theorem rename_of_files {source : Path} {here there : Location} (hhere : t.place source = .ok here)
    (hthere : t.place p = .ok there) (hdot : endsInDot p = false) (hslash : p.endsInSlash = false)
    (hsource : t.find? here = some (.file rights content))
    (htarget : t.find? there = some (.file rights' old)) (hsame : t.sameFile here there = false)
    (hmay : t.mayChange here = true) (hmay' : t.mayChange there = true) :
    t.rename source p = .ok (t.moveEntry here there (.file rights content)) := by
  have hdir : t.isDirectory there = false := by
    rw [Bool.eq_false_iff]
    intro hdir
    obtain ⟨r, hr⟩ := isDirectory_eq_true.mp hdir
    rw [htarget] at hr
    cases hr
  rw [rename, hhere, hthere]
  simp [bind, Except.bind, hdot, hslash, hsource, hsame, hmay, hmay', hdir]

end Operations

theorem exists_replace_again (hin : Inherits t₀ u) (hclear : ClearBeside t₀ p)
    (h : Replaced t₀ t made t' p content v w rights) (hmade : Preserves t₀ made)
    (hu : Preserves made u) (hsibling : u.find? v.place = none)
    (hfile : u.find? w.place = some (.file rights' old)) :
    ∃ u', u.replace p content = (u', .ok ()) ∧ Filed u u' w.place fileRights content := by
  have hlinks : ∀ {q : Path} {way : Way}, t₀.way? q = some way → ∀ x ∈ way.links,
      ∃ target, made.find? x = some (.link target) := by
    intro q way hway x hx
    obtain ⟨target, htarget⟩ := isLink_of_mem_way? hway x hx
    exact ⟨target, hmade.stays htarget rfl⟩
  obtain ⟨-, hdot, -⟩ := of_way? h.target
  have hne := place_ne_sibling h.target h.sibling
  have hresolve : u.resolve (temporarySibling p) = .ok v.place := by
    rw [resolve, endsInSlash_temporarySibling]
    refine h.reachesSibling u true (hu.retains (hlinks h.sibling)) fun e he => ?_
    rw [hsibling] at he
    cases he
  have hwrite : u.write (temporarySibling p) content =
      .ok (u.put v.place (.file fileRights content)) :=
    write_of_missing hresolve hsibling (hu.mayChange h.mayChangeSibling)
  generalize u.put v.place (.file fileRights content) = written at hwrite
  obtain ⟨v', rights'', hv', hfiled, -, -⟩ := exists_filed_of_write hin hclear hwrite
  rw [h.sibling, Option.some.injEq] at hv'
  subst hv'
  have hwritten : Preserves made written := by
    refine hu.trans (hfiled.preserves fun e he => ?_)
    rw [hsibling] at he
    cases he
  have hsource : written.find? v.place = some (.file rights'' content) := by
    rw [hfiled.find?, if_pos rfl]
  have htarget : written.find? w.place = some (.file rights' old) := by
    rw [hfiled.find?, if_neg hne, hfile]
  have hhere : written.place (temporarySibling p) = .ok v.place :=
    h.reachesSibling _ false (hwritten.retains (hlinks h.sibling)) (ends_of_file hsource)
  have hthere : written.place p = .ok w.place :=
    h.reaches _ false (hwritten.retains (hlinks h.target)) (ends_of_file htarget)
  have hdifferent : written.sameFile v.place w.place = false := by
    rw [hfiled.names.alone.sameFile, decide_eq_false hne.symm]
  have hrename := rename_of_files hhere hthere hdot h.slash hsource htarget hdifferent
    (hwritten.mayChange h.mayChangeSibling) (hwritten.mayChange h.mayChangeTarget)
  generalize written.moveEntry v.place w.place (.file rights'' content) = u' at hrename
  have hmove : u.moveIn p content = (u', .ok ()) := by
    rw [moveIn, hwrite]
    simp only [hrename]
  have hparent : u.makeParent p = (u, .ok ()) := by
    obtain ⟨n, above, hname, -, -⟩ := exists_place_eq_cons h.target
    obtain ⟨m, there, -, hlast, hplace⟩ := exists_place_eq_cons h.sibling
    rw [getLast?_steps_temporarySibling, Option.some.injEq] at hlast
    subst hlast
    rw [hplace] at hsource
    exact makeParent_of_resolve hname (isName_of_find? hsource) hresolve
  refine ⟨u', by rw [replace, hparent]; simp only [hmove], ?_⟩
  obtain ⟨v', w', r, hagain⟩ := exists_replaced_of_moveIn hin hclear hmove
  have hv := h.sibling.symm.trans hagain.sibling
  have hw := h.target.symm.trans hagain.target
  cases hv
  cases hw
  rcases hagain.before with ⟨-, rfl⟩ | ⟨old', hold⟩
  · refine ⟨hagain.working.trans hin.working.symm, fun x => ?_, hagain.names⟩
    rw [hagain.find?]
    by_cases hx : x = v.place
    · rw [if_pos hx, hx, if_neg hne.symm, hsibling]
    · rw [if_neg hx]
  · rw [hsibling] at hold
    cases hold

end EntityGraph.FileTree
