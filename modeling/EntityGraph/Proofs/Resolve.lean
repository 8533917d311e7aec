import EntityGraph.FileTree.Access
import EntityGraph.Proofs.PathBelow

namespace EntityGraph.FileTree

variable {t : FileTree} {followLast last slash : Bool} {loc start : Location} {a : Name}

inductive Step where
  | stop (e : FileError)
  | arrive
  | go (loc : Location)
  | jump (target : Path)

/-- One step of following. `last` says that a step may end at something else than a directory. -/
def step (t : FileTree) (followLast last : Bool) (start : Location) (a : Name) : Step :=
  match t.find? start with
  | some (.directory rights) =>
      if !rights.search then .stop .denied
      else if a = [Path.dot] then .go start
      else if a = [Path.dot, Path.dot] then .go start.tail
      else if nameLimit < a.length then .stop .nameTooLong
      else
        match t.find? (a :: start) with
        | none => if last && isEntryName a then .arrive else .stop .notFound
        | some (.directory _) => .go (a :: start)
        | some (.file ..) => if last then .arrive else .stop .notDirectory
        | some (.link target) => if last && !followLast then .arrive else .jump target
  | _ => .stop .notDirectory

theorem followSteps_cons (onLink : Location → Path → Route → Except FileError Location)
    (as : List Name) :
    followSteps t followLast onLink slash start (a :: as) =
      match step t followLast (as.isEmpty && !slash) start a with
      | .stop e => .error e
      | .arrive => .ok (a :: start)
      | .go loc => followSteps t followLast onLink slash loc as
      | .jump target => onLink start target ⟨as, slash⟩ := by
  rw [followSteps, step]
  grind

theorem of_step_eq_arrive (h : step t followLast last start a = .arrive) :
    last = true ∧ ∀ rights, t.find? (a :: start) ≠ some (.directory rights) := by
  unfold step at h
  grind

theorem of_step_eq_go (h : step t followLast last start a = .go loc) :
    (a = [Path.dot] ∧ loc = start) ∨ (a = [Path.dot, Path.dot] ∧ loc = start.tail) ∨
      (loc = a :: start ∧ ∃ rights, t.find? (a :: start) = some (.directory rights)) := by
  unfold step at h
  grind

theorem of_step_eq_jump {target : Path} (h : step t followLast last start a = .jump target) :
    t.find? (a :: start) = some (.link target) := by
  unfold step at h
  grind

theorem step_false {s : Step} (h : step t followLast last start a = s) (hs : s ≠ .arrive) :
    step t followLast false start a = s := by
  subst h
  unfold step at hs ⊢
  grind

section Append

variable {bs : List Name} {slash' : Bool} {rights : Rights}

theorem followSteps_append {first onLink : Location → Path → Route → Except FileError Location}
    (hbs : bs ≠ []) (hdir : t.find? loc = some (.directory rights))
    (hlink : ∀ l target rest, first l target ⟨rest, slash⟩ = .ok loc →
      ∃ next, onLink l target ⟨rest ++ bs, slash'⟩ = followSteps t true next slash' loc bs) :
    ∀ {as : List Name} {start : Location}, followSteps t true first slash start as = .ok loc →
      ∃ next, followSteps t true onLink slash' start (as ++ bs) =
        followSteps t true next slash' loc bs := by
  intro as
  induction as with
  | nil =>
      intro start h
      simp only [followSteps, Except.ok.injEq] at h
      subst h
      exact ⟨onLink, rfl⟩
  | cons a as ih =>
      intro start h
      have hlast : ((as ++ bs).isEmpty && !slash') = false := by simp [hbs]
      rw [followSteps_cons] at h
      rw [List.cons_append, followSteps_cons, hlast]
      cases hstep : step t true (as.isEmpty && !slash) start a with
      | stop e => rw [hstep] at h; cases h
      | arrive =>
          rw [hstep] at h
          simp only [Except.ok.injEq] at h
          exact absurd (h ▸ hdir) ((of_step_eq_arrive hstep).2 rights)
      | go l =>
          rw [hstep] at h
          rw [step_false hstep nofun]
          exact ih h
      | jump target =>
          rw [hstep] at h
          rw [step_false hstep nofun]
          exact hlink start target as h

theorem follow_append (hbs : bs ≠ []) (hdir : t.find? loc = some (.directory rights)) :
    ∀ {links : Nat} {start : Location} {as : List Name},
      follow t true links start ⟨as, slash⟩ = .ok loc →
      ∃ next, follow t true links start ⟨as ++ bs, slash'⟩ =
        followSteps t true next slash' loc bs := by
  intro links
  induction links generalizing slash with
  | zero =>
      intro start as h
      refine followSteps_append hbs hdir ?_ h
      intro l target rest hl
      cases hl
  | succ links ih =>
      intro start as h
      refine followSteps_append hbs hdir ?_ h
      intro l target rest hl
      have hthrough : Route.through target ⟨rest ++ bs, slash'⟩ =
          ⟨(target.steps ++ rest) ++ bs, slash'⟩ := by
        simp [Route.through, hbs]
      rw [hthrough]
      exact ih hl

end Append

def NoLinkBelow (t : FileTree) (loc : Location) : Prop :=
  ∀ names target, t.find? (names ++ loc) ≠ some (.link target)

theorem NoLinkBelow.cons (h : NoLinkBelow t loc) (n : Name) : NoLinkBelow t (n :: loc) := by
  intro names target
  have hn := h (names ++ [n]) target
  rwa [List.append_assoc, List.singleton_append] at hn

theorem followSteps_names {onLink : Location → Path → Route → Except FileError Location}
    {there : Location} {names : List Name} (hlinks : NoLinkBelow t loc)
    (hnames : ∀ n ∈ names, Path.isName n = true)
    (h : followSteps t true onLink slash loc names = .ok there) :
    there = names.reverse ++ loc := by
  induction names generalizing loc with
  | nil =>
      simp only [followSteps, Except.ok.injEq] at h
      exact h.symm
  | cons n names ih =>
      obtain ⟨-, -, -, hdot, hup⟩ := Path.isName_iff.mp (hnames n List.mem_cons_self)
      have hreverse : (n :: names).reverse ++ loc = names.reverse ++ n :: loc := by simp
      rw [followSteps_cons] at h
      rw [hreverse]
      cases hstep : step t true (names.isEmpty && !slash) loc n with
      | stop e => rw [hstep] at h; cases h
      | arrive =>
          rw [hstep] at h
          obtain ⟨hlast, -⟩ := of_step_eq_arrive hstep
          have hnil : names = [] := by
            rw [Bool.and_eq_true, List.isEmpty_iff] at hlast
            exact hlast.1
          simp only [Except.ok.injEq] at h
          simp [← h, hnil]
      | go l =>
          rw [hstep] at h
          rcases of_step_eq_go hstep with ⟨hn, -⟩ | ⟨hn, -⟩ | ⟨rfl, -⟩
          · exact absurd hn hdot
          · exact absurd hn hup
          · exact ih (hlinks.cons n) (fun m hm => hnames m (List.mem_cons_of_mem n hm)) h
      | jump target => exact absurd (of_step_eq_jump hstep) (hlinks [n] target)

section Under

variable {root : Path} {names : List Name}

theorem isEmpty_of_resolve (h : t.resolve root = .ok loc) : root.isEmpty = false := by
  unfold resolve resolveAs at h
  grind

theorem length_lt_of_resolve (h : t.resolve root = .ok loc) : root.bytes.length < pathLimit := by
  unfold resolve resolveAs at h
  grind

theorem follow_of_resolve (h : t.resolve root = .ok loc) :
    follow t true linkLimit (startOf t.working root) ⟨root.steps, root.endsInSlash⟩ = .ok loc := by
  unfold resolve resolveAs at h
  grind

theorem resolve_under {there : Location} {rights : Rights} (hroot : t.resolve root = .ok loc)
    (hdir : t.find? loc = some (.directory rights)) (hlinks : NoLinkBelow t loc)
    (hnames : ∀ n ∈ names, Path.isName n = true)
    (h : t.resolve (root.under names) = .ok there) : there = names.reverse ++ loc := by
  have hempty := isEmpty_of_resolve hroot
  by_cases hne : names = []
  · subst hne
    rw [Path.under, List.foldl_nil, hroot, Except.ok.injEq] at h
    simp [h]
  · have hfollow := follow_of_resolve h
    have hstart : startOf t.working (root.under names) = startOf t.working root := by
      rw [startOf, startOf, Path.isAbsolute_under hempty hnames]
    rw [Path.steps_under hempty hnames, hstart] at hfollow
    obtain ⟨next, hnext⟩ := follow_append hne hdir (follow_of_resolve hroot)
    rw [hnext] at hfollow
    exact followSteps_names hlinks hnames hfollow

end Under

end EntityGraph.FileTree
