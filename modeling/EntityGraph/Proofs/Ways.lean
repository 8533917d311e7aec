import EntityGraph.Proofs.FileNames
import EntityGraph.Proofs.PlainTree
/-!
The place that a path names. Directories on the way to it may be missing: once they are made, the
path leads there. A path that is followed in a later tree, where directories were made and files
came and went, ends at the place that it named before.
-/

namespace EntityGraph.FileTree

structure Way where
  links : List Location
  place : Location
  deriving DecidableEq, Repr

def Way.after (link : Location) (w : Way) : Way := { w with links := link :: w.links }

section Way

variable (t : FileTree)

/-- Goes on from a location. What is no link is passed like a directory, and whatever stands at the
last name is left alone. -/
def waySteps (onLink : Location → List Name → Option Way) : Location → List Name → Option Way
  | loc, [] => some ⟨[], loc⟩
  | loc, s :: rest =>
      if s = [Path.dot] then waySteps onLink loc rest
      else if s = [Path.dot, Path.dot] then waySteps onLink loc.tail rest
      else if rest.isEmpty then some ⟨[], s :: loc⟩
      else
        match t.find? (s :: loc) with
        | some (.link target) =>
            (onLink (startOf loc target) (target.steps ++ rest)).map (·.after (s :: loc))
        | _ => waySteps onLink (s :: loc) rest

def way : Nat → Location → List Name → Option Way
  | 0 => waySteps t fun _ _ => none
  | links + 1 => waySteps t (way links)

/-- The way of a path to the file that it names, which no path does that ends in a dot. -/
def way? (p : Path) : Option Way :=
  if 0 ∈ p.bytes ∨ endsInDot p ∨ pathLimit ≤ p.bytes.length then none
  else way t linkLimit (startOf t.working p) p.steps

end Way

variable {t t' t'' : FileTree} {followLast followLast' slash last last' : Bool} {links : Nat}
  {loc l : Location} {s : Name} {steps rest : List Name} {p : Path}

section Follow

def afterLink (t : FileTree) (followLast : Bool) :
    Nat → Location → Path → Route → Except FileError Location
  | 0, _, _, _ => .error .tooManyLinks
  | links + 1, loc, target, rest =>
      follow t followLast links (startOf loc target) (Route.through target rest)

theorem follow_eq (links : Nat) (loc : Location) (r : Route) :
    follow t followLast links loc r =
      followSteps t followLast (afterLink t followLast links) r.slash loc r.steps := by
  cases links <;> rfl

theorem follow_nil : follow t followLast links loc ⟨[], slash⟩ = .ok loc := by
  rw [follow_eq]
  rfl

theorem follow_cons :
    follow t followLast links loc ⟨s :: rest, slash⟩ =
      match step t followLast (rest.isEmpty && !slash) loc s with
      | .stop e => .error e
      | .arrive => .ok (s :: loc)
      | .go next => follow t followLast links next ⟨rest, slash⟩
      | .jump target => afterLink t followLast links loc target ⟨rest, slash⟩ := by
  rw [follow_eq, followSteps_cons]
  cases step t followLast (rest.isEmpty && !slash) loc s <;> simp only [follow_eq]

def afterWay (t : FileTree) : Nat → Location → List Name → Option Way
  | 0, _, _ => none
  | links + 1, loc, steps => way t links loc steps

theorem way_eq (links : Nat) (loc : Location) (steps : List Name) :
    way t links loc steps = waySteps t (afterWay t links) loc steps := by
  cases links <;> rfl

theorem way_nil : way t links loc [] = some ⟨[], loc⟩ := by
  rw [way_eq]
  rfl

theorem way_cons :
    way t links loc (s :: rest) =
      if s = [Path.dot] then way t links loc rest
      else if s = [Path.dot, Path.dot] then way t links loc.tail rest
      else if rest.isEmpty then some ⟨[], s :: loc⟩
      else
        match t.find? (s :: loc) with
        | some (.link target) =>
            (afterWay t links (startOf loc target) (target.steps ++ rest)).map (·.after (s :: loc))
        | _ => way t links (s :: loc) rest := by
  simp only [way_eq]
  rw [waySteps]

theorem through_of_isEmpty (target : Path) (hrest : rest.isEmpty = false) :
    Route.through target ⟨rest, slash⟩ = ⟨target.steps ++ rest, slash⟩ := by
  simp [Route.through, hrest]

/-- Induction over the steps of a route. Behind a link there may be more of them, but fewer links
can follow. -/
@[elab_as_elim]
theorem steps_induct {motive : Nat → List Name → Prop} (nil : ∀ links, motive links [])
    (cons : ∀ links s rest, motive links rest →
      (∀ fewer steps, links = fewer + 1 → motive fewer steps) → motive links (s :: rest))
    (links : Nat) (steps : List Name) : motive links steps := by
  induction links generalizing steps with
  | zero =>
      induction steps with
      | nil => exact nil 0
      | cons s rest ih => exact cons 0 s rest ih nofun
  | succ fewer ihlink =>
      induction steps with
      | nil => exact nil (fewer + 1)
      | cons s rest ih =>
          refine cons (fewer + 1) s rest ih ?_
          rintro _ steps ⟨⟩
          exact ihlink steps

inductive Leads (t : FileTree) (followLast : Bool) :
    Nat → Location → List Name → Bool → Location → Prop
  | nil {links : Nat} {loc : Location} {slash : Bool} :
      Leads t followLast links loc [] slash loc
  | arrive {links : Nat} {loc : Location} {s : Name}
      (hstep : step t followLast true loc s = .arrive) :
      Leads t followLast links loc [s] false (s :: loc)
  | go {links : Nat} {loc next l : Location} {s : Name} {rest : List Name} {slash : Bool}
      (hstep : step t followLast (rest.isEmpty && !slash) loc s = .go next)
      (hrest : Leads t followLast links next rest slash l) :
      Leads t followLast links loc (s :: rest) slash l
  | jump {fewer : Nat} {loc l : Location} {s : Name} {rest : List Name} {slash : Bool}
      {target : Path} (hstep : step t followLast (rest.isEmpty && !slash) loc s = .jump target)
      (hrest : Leads t followLast fewer (startOf loc target) (target.steps ++ rest)
        (slash || (rest.isEmpty && target.endsInSlash)) l) :
      Leads t followLast (fewer + 1) loc (s :: rest) slash l

theorem leads_of_follow (links : Nat) (steps : List Name) : ∀ {loc l : Location} {slash : Bool},
    follow t followLast links loc ⟨steps, slash⟩ = .ok l →
      Leads t followLast links loc steps slash l := by
  induction links, steps using steps_induct with
  | nil links =>
      intro loc l slash h
      rw [follow_nil, Except.ok.injEq] at h
      exact h ▸ .nil
  | cons links s rest ih ihlink =>
      intro loc l slash h
      rw [follow_cons] at h
      cases hstep : step t followLast (rest.isEmpty && !slash) loc s with
      | stop e => rw [hstep] at h; cases h
      | arrive =>
          rw [hstep, Except.ok.injEq] at h
          obtain ⟨hrest, hslash⟩ : rest = [] ∧ slash = false := by
            simpa using (of_step_eq_arrive hstep).1
          subst h hrest hslash
          exact .arrive hstep
      | go next =>
          rw [hstep] at h
          exact .go hstep (ih h)
      | jump target =>
          rw [hstep] at h
          cases links with
          | zero => cases h
          | succ fewer => exact .jump hstep (ihlink fewer _ rfl h)

end Follow

/-- The later tree has no new links, and in place of an old one at most a file; and no file came to
stand under further names. -/
structure Inherits (t t' : FileTree) : Prop where
  working : t'.working = t.working
  link : ∀ {x target}, t'.find? x = some (.link target) → t.find? x = some (.link target)
  stays : ∀ {x target}, t.find? x = some (.link target) →
    ∃ e, t'.find? x = some e ∧ e.isDirectory = false
  alone : ∀ {x}, t.Alone x → t'.Alone x

theorem Inherits.refl (t : FileTree) : Inherits t t :=
  ⟨rfl, id, fun h => ⟨_, h, rfl⟩, id⟩

theorem Inherits.noLink {rights : Rights} (h : Inherits t t')
    (hdir : t'.find? loc = some (.directory rights)) (target : Path) :
    t.find? loc ≠ some (.link target) := by
  intro hlink
  obtain ⟨e, he, hnodir⟩ := h.stays hlink
  rw [hdir] at he
  cases he
  cases hnodir

structure Retains (t t' : FileTree) (links : List Location) : Prop where
  working : t'.working = t.working
  directory : ∀ {x rights}, t.find? x = some (.directory rights) →
    t'.find? x = some (.directory rights)
  link : ∀ x ∈ links, t'.find? x = t.find? x

def Ends (t : FileTree) (loc : Location) : Prop :=
  ∀ e, t.find? loc = some e → e.isDirectory = false ∧ e.isLink = false

section Steps

theorem directory_of_step {r : Step} (h : step t followLast last loc s = r)
    (hr : ∀ e, r ≠ .stop e) : ∃ rights, t.find? loc = some (.directory rights) := by
  unfold step at h
  grind

theorem name_of_step_eq_arrive (h : step t followLast last loc s = .arrive) :
    s ≠ [Path.dot] ∧ s ≠ [Path.dot, Path.dot] ∧ isEntryName s = true := by
  have hentry : ∀ e, t.find? (s :: loc) = some e → isEntryName s = true :=
    fun e he => isEntryName_of_find? he
  unfold step at h
  grind

theorem last_of_step_eq_jump {target : Path} (h : step t false last loc s = .jump target) :
    last = false := by
  unfold step at h
  grind

theorem step_eq_arrive_of_jump {target : Path}
    (h : step t followLast last loc s = .jump target) : step t false true loc s = .arrive := by
  obtain ⟨rights, hdir⟩ := directory_of_step h nofun
  have hfind := of_step_eq_jump h
  unfold step at h ⊢
  simp only [hdir, hfind] at h ⊢
  grind

theorem step_eq_arrive_of_arrive (h : step t followLast last loc s = .arrive) :
    step t false true loc s = .arrive := by
  rw [(of_step_eq_arrive h).1] at h
  unfold step at h ⊢
  grind

theorem isName_of_find? {e : Entry} (h : t.find? (s :: loc) = some e) : Path.isName s = true := by
  have hentry := isEntryName_of_find? h
  rw [isEntryName, Bool.and_eq_true] at hentry
  exact hentry.1

theorem name_of_find? {e : Entry} (h : t.find? (s :: loc) = some e) :
    s ≠ [Path.dot] ∧ s ≠ [Path.dot, Path.dot] := by
  obtain ⟨-, -, -, hdot, hup⟩ := Path.isName_iff.mp (isName_of_find? h)
  exact ⟨hdot, hup⟩

theorem step_eq_arrive_of_ends (h : step t followLast last loc s = .arrive)
    (hloc : t'.find? loc = t.find? loc) (hends : Ends t' (s :: loc)) :
    step t' followLast' last loc s = .arrive := by
  obtain ⟨hdot, hup, hname⟩ := name_of_step_eq_arrive h
  have hlast := (of_step_eq_arrive h).1
  unfold step at h ⊢
  unfold Ends at hends
  grind [Entry.isDirectory, Entry.isLink]

theorem step_eq_go_of_retains {next : Location} (h : step t followLast last loc s = .go next)
    (hdir : ∀ {x rights}, t.find? x = some (.directory rights) →
      t'.find? x = some (.directory rights)) :
    step t' followLast' last' loc s = .go next := by
  obtain ⟨rights, hloc⟩ := directory_of_step h nofun
  have hloc' := hdir hloc
  rcases of_step_eq_go h with ⟨hdot, -⟩ | ⟨hup, -⟩ | ⟨-, inner, hinner⟩
  · unfold step at h ⊢
    simp only [hloc, hloc', hdot] at h ⊢
    exact h
  · unfold step at h ⊢
    simp only [hloc, hloc', hup] at h ⊢
    exact h
  · have hinner' := hdir hinner
    unfold step at h ⊢
    simp only [hloc, hloc', hinner, hinner'] at h ⊢
    exact h

theorem step_eq_jump_of_retains {target : Path} (h : step t followLast false loc s = .jump target)
    (hdir : ∀ {x rights}, t.find? x = some (.directory rights) →
      t'.find? x = some (.directory rights))
    (hlink : t'.find? (s :: loc) = t.find? (s :: loc)) :
    step t' followLast' false loc s = .jump target := by
  unfold step at h ⊢
  grind

end Steps

section Later

/-- What is followed in a later tree was the way before, and leads there again in every tree that
retains what is on it. -/
theorem exists_way_of_leads (hin : Inherits t t') (h : Leads t' false links loc steps slash l)
    (hslash : slash = false) :
    ∃ w, way t links loc steps = some w ∧ w.place = l ∧
      ∀ t'' followLast, Retains t' t'' w.links → Ends t'' l →
        follow t'' followLast links loc ⟨steps, slash⟩ = .ok l := by
  induction h with
  | nil => exact ⟨_, way_nil, rfl, fun _ _ _ _ => follow_nil⟩
  | @arrive links loc s hstep =>
      obtain ⟨rights, hdir⟩ := directory_of_step hstep nofun
      obtain ⟨hdot, hup, -⟩ := name_of_step_eq_arrive hstep
      refine ⟨⟨[], s :: loc⟩, by simp [way_cons, hdot, hup], rfl, ?_⟩
      intro t'' followLast hretains hends
      have hloc : t''.find? loc = t'.find? loc := by rw [hdir, hretains.directory hdir]
      have hagain : step t'' followLast (([] : List Name).isEmpty && !false) loc s = .arrive :=
        step_eq_arrive_of_ends hstep hloc hends
      rw [follow_cons, hagain]
  | @go links loc next l s rest slash hstep hrest ih =>
      obtain ⟨w, hw, hplace, hlater⟩ := ih hslash
      obtain ⟨rights, hdir⟩ := directory_of_step hstep nofun
      refine ⟨w, ?_, hplace, ?_⟩
      · rw [way_cons]
        rcases of_step_eq_go hstep with ⟨hs, hnext⟩ | ⟨hs, hnext⟩ | ⟨hnext, inner, hinner⟩
        · subst hs hnext
          simp [hw]
        · subst hs hnext
          simp [hw, Path.dot]
        · obtain ⟨hdot, hup⟩ := name_of_find? hinner
          rw [hnext] at hw
          simp only [hdot, hup, if_false]
          split
          · rename_i hnil
            rw [List.isEmpty_iff.mp hnil, way_nil] at hw
            exact hw
          · split
            · rename_i target hfind
              exact absurd hfind (hin.noLink hinner target)
            · exact hw
      · intro t'' followLast hretains hends
        rw [follow_cons, step_eq_go_of_retains hstep hretains.directory]
        exact hlater t'' followLast hretains hends
  | @jump fewer loc l s rest slash target hstep hrest ih =>
      have hfind := of_step_eq_jump hstep
      obtain ⟨hdot, hup⟩ := name_of_find? hfind
      have hne : rest.isEmpty = false := by simpa [hslash] using last_of_step_eq_jump hstep
      rw [hne, Bool.false_and] at hstep
      obtain ⟨w, hw, hplace, hlater⟩ := ih (by simp [hslash, hne])
      refine ⟨w.after (s :: loc), ?_, hplace, ?_⟩
      · simp [way_cons, hdot, hup, hne, hin.link hfind, afterWay, hw]
      · intro t'' followLast hretains hends
        have hkept : t''.find? (s :: loc) = t'.find? (s :: loc) :=
          hretains.link _ List.mem_cons_self
        have hinner : Retains t' t'' w.links :=
          ⟨hretains.working, hretains.directory,
            fun x hx => hretains.link x (List.mem_cons_of_mem _ hx)⟩
        rw [follow_cons, hne, Bool.false_and,
          step_eq_jump_of_retains hstep hretains.directory hkept]
        exact hlater t'' followLast hinner hends

theorem exists_place_of_leads (h : Leads t true links loc steps slash l) :
    ∃ m, follow t false links loc ⟨steps, false⟩ = .ok m ∧
      (m = l ∨ ∃ target, t.find? m = some (.link target)) := by
  induction h with
  | nil => exact ⟨_, follow_nil, .inl rfl⟩
  | @arrive links loc s hstep =>
      have hagain : step t false (([] : List Name).isEmpty && !false) loc s = .arrive :=
        step_eq_arrive_of_arrive hstep
      exact ⟨s :: loc, by rw [follow_cons, hagain], .inl rfl⟩
  | go hstep hrest ih =>
      rw [follow_cons, step_eq_go_of_retains hstep id]
      exact ih
  | @jump fewer loc l s rest slash target hstep hrest ih =>
      rw [follow_cons]
      by_cases hnil : rest.isEmpty = true
      · rw [hnil, Bool.not_false, Bool.and_true, step_eq_arrive_of_jump hstep]
        exact ⟨s :: loc, rfl, .inr ⟨target, of_step_eq_jump hstep⟩⟩
      · rw [Bool.not_eq_true] at hnil
        rw [hnil, Bool.false_and] at hstep
        rw [hnil, Bool.false_and, step_eq_jump_of_retains hstep id rfl]
        simpa only [afterLink, through_of_isEmpty target hnil] using ih

theorem isEntryName_of_leads (h : Leads t followLast links loc steps slash l) {rights : Rights}
    (hloc : t.find? loc = some (.directory rights)) (hmissing : t.find? l = none) :
    ∃ s above, l = s :: above ∧ isEntryName s = true := by
  induction h generalizing rights with
  | nil =>
      rw [hmissing] at hloc
      cases hloc
  | arrive hstep => exact ⟨_, _, rfl, (name_of_step_eq_arrive hstep).2.2⟩
  | @go links loc next l s rest slash hstep hrest ih =>
      rcases of_step_eq_go hstep with ⟨-, rfl⟩ | ⟨-, rfl⟩ | ⟨rfl, inner, hinner⟩
      · exact ih hloc hmissing
      · cases loc with
        | nil => exact ih hloc hmissing
        | cons n above =>
            obtain ⟨inner, hinner⟩ := directory_of_find? hloc
            exact ih hinner hmissing
      · exact ih hinner hmissing
  | @jump fewer loc l s rest slash target hstep hrest ih =>
      have hstart : ∃ rights, t.find? (startOf loc target) = some (.directory rights) := by
        unfold startOf
        split
        · by_cases hne : loc = []
          · exact ⟨rights, hne ▸ hloc⟩
          · rw [← List.append_nil loc] at hloc
            exact directory_of_find?_append hne hloc
        · exact ⟨rights, hloc⟩
      obtain ⟨inner, hinner⟩ := hstart
      exact ih hinner hmissing

theorem isEntryName_of_steps (hsteps : steps ≠ [])
    (h : follow t followLast links loc ⟨steps, slash⟩ = .ok l) (hmissing : t.find? l = none) :
    ∃ s above, l = s :: above ∧ isEntryName s = true := by
  have hleads := leads_of_follow _ _ h
  have hdir : ∃ rights, t.find? loc = some (.directory rights) := by
    cases hleads with
    | nil => exact absurd rfl hsteps
    | arrive hstep => exact directory_of_step hstep nofun
    | go hstep hrest => exact directory_of_step hstep nofun
    | jump hstep hrest => exact directory_of_step hstep nofun
  obtain ⟨rights, hdir⟩ := hdir
  exact isEntryName_of_leads hleads hdir hmissing

section Ends

theorem of_way_cons {w : Way} (h : way t links loc (s :: rest) = some w) :
    (s = [Path.dot] ∧ way t links loc rest = some w) ∨
      (s = [Path.dot, Path.dot] ∧ way t links loc.tail rest = some w) ∨
      (rest = [] ∧ w = ⟨[], s :: loc⟩) ∨
      (∃ target fewer v, t.find? (s :: loc) = some (.link target) ∧ links = fewer + 1 ∧
        way t fewer (startOf loc target) (target.steps ++ rest) = some v ∧
          w = v.after (s :: loc)) ∨
      way t links (s :: loc) rest = some w := by
  rw [way_cons] at h
  split at h
  · rename_i hs
    exact .inl ⟨hs, h⟩
  · split at h
    · rename_i hs
      exact .inr (.inl ⟨hs, h⟩)
    · split at h
      · rename_i hrest
        exact .inr (.inr (.inl ⟨List.isEmpty_iff.mp hrest, (Option.some.inj h).symm⟩))
      · split at h
        · rename_i target hfind
          obtain ⟨v, hv, rfl⟩ := Option.map_eq_some_iff.mp h
          cases links with
          | zero => cases hv
          | succ fewer => exact .inr (.inr (.inr (.inl ⟨target, fewer, v, hfind, rfl, hv, rfl⟩)))
        · exact .inr (.inr (.inr (.inr h)))

theorem isLink_of_mem_links (links : Nat) (steps : List Name) : ∀ {loc : Location} {w : Way},
    way t links loc steps = some w → ∀ x ∈ w.links, ∃ target, t.find? x = some (.link target) := by
  induction links, steps using steps_induct with
  | nil links =>
      intro loc w h
      rw [way_nil, Option.some.injEq] at h
      rw [← h]
      simp
  | cons links s rest ih ihlink =>
      intro loc w h
      obtain ⟨-, hrest⟩ | ⟨-, hrest⟩ | ⟨-, rfl⟩ | ⟨target, fewer, v, hfind, hlinks, hv, rfl⟩ |
        hrest := of_way_cons h
      · exact ih hrest
      · exact ih hrest
      · simp
      · intro x hx
        rcases List.mem_cons.mp hx with rfl | hx
        · exact ⟨target, hfind⟩
        · exact ihlink fewer _ hlinks hv x hx
      · exact ih hrest

theorem head_of_way (hdot : s ≠ [Path.dot]) (hup : s ≠ [Path.dot, Path.dot]) (links : Nat)
    (steps : List Name) : ∀ {loc : Location} {w : Way},
      way t links loc (steps ++ [s]) = some w → ∃ above, w.place = s :: above := by
  induction links, steps using steps_induct with
  | nil links =>
      intro loc w h
      rw [List.nil_append, way_cons, if_neg hdot, if_neg hup, List.isEmpty_nil, if_pos rfl,
        Option.some.injEq] at h
      rw [← h]
      exact ⟨loc, rfl⟩
  | cons links a rest ih ihlink =>
      intro loc w h
      rw [List.cons_append] at h
      obtain ⟨-, hrest⟩ | ⟨-, hrest⟩ | ⟨hnil, -⟩ | ⟨target, fewer, v, -, hlinks, hv, rfl⟩ | hrest :=
        of_way_cons h
      · exact ih hrest
      · exact ih hrest
      · exact absurd hnil (by simp)
      · rw [← List.append_assoc] at hv
        obtain ⟨above, habove⟩ := ihlink fewer _ hlinks hv
        exact ⟨above, habove⟩
      · exact ih hrest

end Ends

theorem resolveAs_eq (h : t.resolveAs followLast slash p = .ok l) :
    follow t followLast linkLimit (startOf t.working p) ⟨p.steps, slash⟩ = .ok l ∧
      0 ∉ p.bytes ∧ p.isEmpty = false ∧ p.bytes.length < pathLimit := by
  unfold resolveAs at h
  grind

theorem resolveAs_of_follow (hzero : 0 ∉ p.bytes) (hempty : p.isEmpty = false)
    (hlength : p.bytes.length < pathLimit) :
    t.resolveAs followLast slash p =
      follow t followLast linkLimit (startOf t.working p) ⟨p.steps, slash⟩ := by
  unfold resolveAs
  grind

theorem isLink_of_mem_way? {w : Way} (h : t.way? p = some w) :
    ∀ x ∈ w.links, ∃ target, t.find? x = some (.link target) := by
  unfold way? at h
  split at h
  · cases h
  · exact isLink_of_mem_links _ _ h

/-- The path leads there in every later tree in which the way to it is still open. -/
def Reaches (t : FileTree) (p : Path) (w : Way) : Prop :=
  ∀ t' followLast, Retains t t' w.links → Ends t' w.place →
    t'.resolveAs followLast false p = .ok w.place

theorem exists_way_of_place (hin : Inherits t t') (hdot : endsInDot p = false)
    (h : t'.place p = .ok l) : ∃ w, t.way? p = some w ∧ w.place = l ∧ Reaches t' p w := by
  obtain ⟨hfollow, hzero, hempty, hlength⟩ := resolveAs_eq h
  obtain ⟨w, hw, hplace, hlater⟩ := exists_way_of_leads hin (leads_of_follow _ _ hfollow) rfl
  rw [hin.working] at hw
  refine ⟨w, ?_, hplace, ?_⟩
  · rw [way?, if_neg (by simp [hzero, hdot, hlength]), hw]
  · intro t'' followLast hretains hends
    rw [resolveAs_of_follow hzero hempty hlength, hretains.working, hplace]
    exact hlater t'' followLast hretains (hplace ▸ hends)

theorem exists_place_of_resolve (h : t.resolve p = .ok l) :
    ∃ m, t.place p = .ok m ∧ (m = l ∨ ∃ target, t.find? m = some (.link target)) := by
  obtain ⟨hfollow, hzero, hempty, hlength⟩ := resolveAs_eq h
  obtain ⟨m, hm, hl⟩ := exists_place_of_leads (leads_of_follow _ _ hfollow)
  exact ⟨m, by rw [place, resolveAs_of_follow hzero hempty hlength, hm], hl⟩

end Later

end EntityGraph.FileTree
