import EntityGraph.Proofs.Siblings

namespace EntityGraph.FileTree

section Trail

variable (t : FileTree)

def trailSteps (onLink : Location → List Name → List Location) :
    Location → List Name → List Location
  | loc, [] => [loc]
  | loc, s :: rest =>
      loc ::
        match step t true true loc s with
        | .go next => trailSteps onLink next rest
        | .jump target => (s :: loc) :: onLink (startOf loc target) (target.steps ++ rest)
        | _ => [s :: loc]

def trailFrom : Nat → Location → List Name → List Location
  | 0 => trailSteps t fun _ _ => []
  | links + 1 => trailSteps t (trailFrom links)

/-- What a path leads to and through, as far as it can be followed. -/
def trail (p : Path) : List Location :=
  if 0 ∈ p.bytes ∨ p.isEmpty ∨ pathLimit ≤ p.bytes.length then []
  else trailFrom t linkLimit (startOf t.working p) p.steps

end Trail

def AgreeOn (places : List Location) (t t' : FileTree) : Prop :=
  ∀ x ∈ places, t'.find? x = t.find? x

variable {t t' : FileTree} {followLast slash : Bool} {links : Nat} {loc l x : Location} {s n : Name}
  {steps rest places : List Name} {p : Path} {rights : Rights}

section From

def afterTrail (t : FileTree) : Nat → Location → List Name → List Location
  | 0, _, _ => []
  | links + 1, loc, steps => trailFrom t links loc steps

theorem trailFrom_eq (links : Nat) (loc : Location) (steps : List Name) :
    trailFrom t links loc steps = trailSteps t (afterTrail t links) loc steps := by
  cases links <;> rfl

theorem trailFrom_nil : trailFrom t links loc [] = [loc] := by
  rw [trailFrom_eq]
  rfl

theorem trailFrom_cons :
    trailFrom t links loc (s :: rest) =
      loc ::
        match step t true true loc s with
        | .go next => trailFrom t links next rest
        | .jump target =>
            (s :: loc) :: afterTrail t links (startOf loc target) (target.steps ++ rest)
        | _ => [s :: loc] := by
  rw [trailFrom_eq, trailSteps]
  cases step t true true loc s <;> simp only [trailFrom_eq]

theorem mem_trailFrom_self (links : Nat) (loc : Location) (steps : List Name) :
    loc ∈ trailFrom t links loc steps := by
  cases steps with
  | nil => simp [trailFrom_nil]
  | cons s rest => simp [trailFrom_cons]

theorem step_eq_go_of_last {last : Bool} {next : Location}
    (h : step t true last loc s = .go next) (last' : Bool) : step t true last' loc s = .go next :=
  step_eq_go_of_retains h id

theorem step_eq_jump_of_last {last : Bool} {target : Path}
    (h : step t true last loc s = .jump target) (last' : Bool) :
    step t true last' loc s = .jump target := by
  obtain ⟨rights, hdir⟩ := directory_of_step h nofun
  have hfind := of_step_eq_jump h
  unfold step at h ⊢
  simp only [hdir, hfind, Bool.not_true, Bool.and_false] at h ⊢
  exact h

theorem through_steps (target : Path) (rest : List Name) (slash : Bool) :
    ∃ slash', Route.through target ⟨rest, slash⟩ = ⟨target.steps ++ rest, slash'⟩ :=
  ⟨_, rfl⟩

end From

section Congr

theorem step_congr {last : Bool} (hloc : t'.find? loc = t.find? loc)
    (hs : s ≠ [Path.dot] → s ≠ [Path.dot, Path.dot] → t'.find? (s :: loc) = t.find? (s :: loc)) :
    step t' true last loc s = step t true last loc s := by
  unfold step
  grind

theorem step_congr_of_agreeOn {last : Bool} (h : AgreeOn (trailFrom t links loc (s :: rest)) t t') :
    step t' true last loc s = step t true last loc s := by
  refine step_congr (h loc (mem_trailFrom_self ..)) ?_
  intro hdot hup
  refine h (s :: loc) ?_
  rw [trailFrom_cons]
  cases hstep : step t true true loc s with
  | stop e => simp
  | arrive => simp
  | jump target => simp
  | go next =>
      rcases of_step_eq_go hstep with ⟨hs, -⟩ | ⟨hs, -⟩ | ⟨rfl, -⟩
      · exact absurd hs hdot
      · exact absurd hs hup
      · exact List.mem_cons_of_mem _ (mem_trailFrom_self ..)

theorem follow_congr (links : Nat) (steps : List Name) : ∀ {loc : Location} {slash : Bool},
    AgreeOn (trailFrom t links loc steps) t t' →
      follow t' true links loc ⟨steps, slash⟩ = follow t true links loc ⟨steps, slash⟩ := by
  induction links, steps using steps_induct with
  | nil links =>
      intro loc slash _
      rw [follow_nil, follow_nil]
  | cons links s rest ih ihlink =>
      intro loc slash h
      rw [follow_cons, follow_cons, step_congr_of_agreeOn h]
      rw [trailFrom_cons] at h
      cases hstep : step t true (rest.isEmpty && !slash) loc s with
      | stop e => rfl
      | arrive => rfl
      | go next =>
          rw [step_eq_go_of_last hstep true] at h
          exact ih fun x hx => h x (List.mem_cons_of_mem _ hx)
      | jump target =>
          rw [step_eq_jump_of_last hstep true] at h
          cases links with
          | zero => rfl
          | succ fewer =>
              obtain ⟨slash', hthrough⟩ := through_steps target rest slash
              simp only [afterLink, hthrough]
              exact ihlink fewer _ rfl fun x hx =>
                h x (List.mem_cons_of_mem _ (List.mem_cons_of_mem _ hx))

theorem mem_trailFrom_of_leads (h : Leads t true links loc steps slash l) :
    l ∈ trailFrom t links loc steps := by
  induction h with
  | nil => simp [trailFrom_nil]
  | arrive hstep => simp [trailFrom_cons, hstep]
  | go hstep hrest ih =>
      rw [trailFrom_cons, step_eq_go_of_last hstep true]
      exact List.mem_cons_of_mem _ ih
  | jump hstep hrest ih =>
      rw [trailFrom_cons, step_eq_jump_of_last hstep true]
      exact List.mem_cons_of_mem _ (List.mem_cons_of_mem _ ih)

end Congr

section Path

theorem resolve_congr (hworking : t'.working = t.working) (h : AgreeOn (t.trail p) t t') :
    t'.resolve p = t.resolve p := by
  unfold resolve resolveAs
  unfold trail at h
  split
  · rfl
  · split
    · rfl
    · split
      · rfl
      · rename_i hzero hempty hlength
        rw [if_neg (by simp [hzero, hempty, hlength])] at h
        rw [hworking]
        exact follow_congr _ _ h

theorem trail_of_resolve (h : t.resolve p = .ok l) :
    t.trail p = trailFrom t linkLimit (startOf t.working p) p.steps := by
  obtain ⟨-, hzero, hempty, hlength⟩ := resolveAs_eq h
  rw [trail, if_neg]
  simp [hzero, hempty, hlength]

theorem mem_trail_of_resolve (h : t.resolve p = .ok l) : l ∈ t.trail p := by
  rw [trail_of_resolve h]
  exact mem_trailFrom_of_leads (leads_of_follow _ _ (follow_of_resolve h))

theorem locate_congr (hworking : t'.working = t.working) (h : AgreeOn (t.trail p) t t') :
    t'.locate p = t.locate p := by
  unfold locate
  rw [resolve_congr hworking h]
  cases hresolve : t.resolve p with
  | error e => rfl
  | ok l => simp only [bind, Except.bind, h l (mem_trail_of_resolve hresolve)]

theorem read_congr (hworking : t'.working = t.working) (h : AgreeOn (t.trail p) t t') :
    t'.read p = t.read p := by
  rw [read, read, locate_congr hworking h]

theorem readText_congr (hworking : t'.working = t.working) (h : AgreeOn (t.trail p) t t') :
    t'.readText p = t.readText p := by
  rw [readText, readText, read_congr hworking h]

theorem openDirectory_congr (hworking : t'.working = t.working) (h : AgreeOn (t.trail p) t t') :
    t'.openDirectory p = t.openDirectory p := by
  rw [openDirectory, openDirectory, locate_congr hworking h]

end Path

section Directory

theorem eq_or_entry_of_mem_trailFrom (h : Leads t true links loc steps slash l) :
    ∀ x ∈ trailFrom t links loc steps,
      x = l ∨ ∃ e, t.find? x = some e ∧ (e.isDirectory || e.isLink) := by
  induction h with
  | nil => simp [trailFrom_nil]
  | arrive hstep =>
      obtain ⟨r, hloc⟩ := directory_of_step hstep (by simp)
      rw [trailFrom_cons, hstep]
      exact List.forall_mem_cons.mpr ⟨.inr ⟨_, hloc, rfl⟩, by simp⟩
  | go hstep hrest ih =>
      obtain ⟨r, hloc⟩ := directory_of_step hstep (by simp)
      rw [trailFrom_cons, step_eq_go_of_last hstep true]
      exact List.forall_mem_cons.mpr ⟨.inr ⟨_, hloc, rfl⟩, ih⟩
  | jump hstep hrest ih =>
      obtain ⟨r, hloc⟩ := directory_of_step hstep (by simp)
      rw [trailFrom_cons, step_eq_jump_of_last hstep true]
      refine List.forall_mem_cons.mpr ⟨.inr ⟨_, hloc, rfl⟩, List.forall_mem_cons.mpr ⟨?_, ih⟩⟩
      exact .inr ⟨_, of_step_eq_jump hstep, rfl⟩

theorem eq_or_entry_of_mem_trail (h : t.resolve p = .ok l) :
    ∀ x ∈ t.trail p, x = l ∨ ∃ e, t.find? x = some e ∧ (e.isDirectory || e.isLink) := by
  rw [trail_of_resolve h]
  exact eq_or_entry_of_mem_trailFrom (leads_of_follow _ _ (follow_of_resolve h))

theorem exists_entry_of_mem_trail (h : t.resolve p = .ok l)
    (hdir : t.find? l = some (.directory rights)) :
    ∀ x ∈ t.trail p, ∃ e, t.find? x = some e ∧ (e.isDirectory || e.isLink) := by
  intro x hx
  rcases eq_or_entry_of_mem_trail h x hx with rfl | hentry
  · exact ⟨_, hdir, rfl⟩
  · exact hentry

end Directory

section Join

theorem trailFrom_concat (hdot : n ≠ [Path.dot]) (hup : n ≠ [Path.dot, Path.dot])
    (h : Leads t true links loc steps slash l) (hdir : t.find? l = some (.directory rights))
    (hlink : ∀ target, t.find? (n :: l) ≠ some (.link target)) :
    ∀ x ∈ trailFrom t links loc (steps ++ [n]), x ∈ trailFrom t links loc steps ∨ x = n :: l := by
  induction h with
  | @nil links loc slash =>
      intro x hx
      rw [List.nil_append, trailFrom_cons] at hx
      rw [trailFrom_nil]
      cases hstep : step t true true loc n with
      | stop e => simpa [hstep] using hx
      | arrive => simpa [hstep] using hx
      | jump target => exact absurd (of_step_eq_jump hstep) (hlink target)
      | go next =>
          rcases of_step_eq_go hstep with ⟨hn, -⟩ | ⟨hn, -⟩ | ⟨rfl, -⟩
          · exact absurd hn hdot
          · exact absurd hn hup
          · simpa [hstep, trailFrom_nil] using hx
  | arrive hstep => exact absurd hdir ((of_step_eq_arrive hstep).2 rights)
  | go hstep hrest ih =>
      intro x hx
      rw [List.cons_append, trailFrom_cons] at hx
      rw [trailFrom_cons]
      simp only [step_eq_go_of_last hstep true, List.mem_cons] at hx ⊢
      rcases hx with hx | hx
      · exact .inl (.inl hx)
      · exact (ih hdir hlink x hx).imp_left .inr
  | jump hstep hrest ih =>
      intro x hx
      rw [List.cons_append, trailFrom_cons] at hx
      rw [trailFrom_cons]
      simp only [step_eq_jump_of_last hstep true, List.mem_cons] at hx ⊢
      rcases hx with hx | hx | hx
      · exact .inl (.inl hx)
      · exact .inl (.inr (.inl hx))
      · rw [← List.append_assoc] at hx
        exact (ih hdir hlink x hx).imp_left fun h => .inr (.inr h)

variable (hn : Path.isName n = true)
include hn

theorem steps_joinName (hp : p.isEmpty = false) : (p.joinName n).steps = p.steps ++ [n] := by
  have hnames : ∀ m ∈ [n], Path.isName m = true := by simpa using hn
  exact Path.steps_under hp hnames

theorem startOf_joinName (hp : p.isEmpty = false) (loc : Location) :
    startOf loc (p.joinName n) = startOf loc p := by
  rw [startOf, startOf, Path.isAbsolute_joinName hp hn]

theorem trail_joinName (h : t.resolve p = .ok l) (hdir : t.find? l = some (.directory rights))
    (hlink : ∀ target, t.find? (n :: l) ≠ some (.link target)) :
    ∀ x ∈ t.trail (p.joinName n), x ∈ t.trail p ∨ x = n :: l := by
  obtain ⟨-, -, -, hdot, hup⟩ := Path.isName_iff.mp hn
  have hempty := isEmpty_of_resolve h
  intro x hx
  unfold trail at hx
  split at hx
  · cases hx
  · rw [steps_joinName hn hempty, startOf_joinName hn hempty] at hx
    rw [trail_of_resolve h]
    exact trailFrom_concat hdot hup (leads_of_follow _ _ (follow_of_resolve h)) hdir hlink x hx

theorem resolve_joinName {there : Location} (h : t.resolve p = .ok l)
    (hdir : t.find? l = some (.directory rights))
    (hlink : ∀ target, t.find? (n :: l) ≠ some (.link target))
    (hthere : t.resolve (p.joinName n) = .ok there) : there = n :: l := by
  obtain ⟨-, -, -, hdot, hup⟩ := Path.isName_iff.mp hn
  have hempty := isEmpty_of_resolve h
  have hfollow := follow_of_resolve hthere
  rw [steps_joinName hn hempty, startOf_joinName hn hempty] at hfollow
  obtain ⟨next, hnext⟩ := follow_append (List.cons_ne_nil n []) hdir (follow_of_resolve h)
  rw [hnext, followSteps_cons] at hfollow
  cases hstep : step t true (([] : List Name).isEmpty && !(p.joinName n).endsInSlash) l n with
  | stop e => rw [hstep] at hfollow; cases hfollow
  | arrive =>
      rw [hstep, Except.ok.injEq] at hfollow
      exact hfollow.symm
  | go loc =>
      rw [hstep] at hfollow
      rcases of_step_eq_go hstep with ⟨hs, -⟩ | ⟨hs, -⟩ | ⟨rfl, -⟩
      · exact absurd hs hdot
      · exact absurd hs hup
      · exact (Except.ok.inj hfollow).symm
  | jump target => exact absurd (of_step_eq_jump hstep) (hlink target)

omit hn in
theorem exists_directory_of_follow_concat (links : Nat) (steps : List Name) :
    ∀ (slash' : Bool) {loc l : Location} {slash : Bool},
      follow t followLast links loc ⟨steps ++ [n], slash⟩ = .ok l →
        ∃ above rights, follow t true links loc ⟨steps, slash'⟩ = .ok above ∧
          t.find? above = some (.directory rights) := by
  induction links, steps using steps_induct with
  | nil links =>
      intro slash' loc l slash h
      rw [List.nil_append, follow_cons] at h
      have hdir : ∃ rights, t.find? loc = some (.directory rights) := by
        cases hstep : step t followLast (([] : List Name).isEmpty && !slash) loc n with
        | stop e => rw [hstep] at h; cases h
        | arrive => exact directory_of_step hstep nofun
        | go next => exact directory_of_step hstep nofun
        | jump target => exact directory_of_step hstep nofun
      obtain ⟨rights, hdir⟩ := hdir
      exact ⟨loc, rights, follow_nil, hdir⟩
  | cons links s rest ih ihlink =>
      intro slash' loc l slash h
      have hlast : ((rest ++ [n]).isEmpty && !slash) = false := by simp
      rw [List.cons_append, follow_cons, hlast] at h
      rw [follow_cons]
      cases hstep : step t followLast false loc s with
      | stop e => rw [hstep] at h; cases h
      | arrive => simpa using (of_step_eq_arrive hstep).1
      | go next =>
          rw [hstep] at h
          rw [step_eq_go_of_retains hstep id]
          exact ih slash' h
      | jump target =>
          rw [hstep] at h
          have hjump : step t true false loc s = .jump target :=
            step_eq_jump_of_retains hstep id rfl
          rw [step_eq_jump_of_last hjump]
          cases links with
          | zero => cases h
          | succ fewer =>
              obtain ⟨slash'', hthrough⟩ := through_steps target rest slash'
              obtain ⟨slash₀, hthrough₀⟩ := through_steps target (rest ++ [n]) slash
              simp only [afterLink, hthrough₀, hthrough, ← List.append_assoc] at h ⊢
              exact ihlink fewer _ rfl slash'' h

theorem exists_directory_of_joinName (hp : p.isEmpty = false)
    (h : t.resolveAs followLast slash (p.joinName n) = .ok l) :
    ∃ above rights, t.resolve p = .ok above ∧ t.find? above = some (.directory rights) := by
  obtain ⟨hfollow, hzero, -, hlength⟩ := resolveAs_eq h
  rw [steps_joinName hn hp, startOf_joinName hn hp] at hfollow
  obtain ⟨above, rights, habove, hdir⟩ :=
    exists_directory_of_follow_concat _ _ p.endsInSlash hfollow
  have hlonger := Path.length_joinName hp hn
  have hbytes : 0 ∉ p.bytes := by
    intro hmem
    refine hzero ?_
    rw [Path.bytes_joinName hp hn, List.mem_append]
    by_cases hslash : p.endsInSlash = true
    · rw [Path.bytes_eq_base_append hslash, List.mem_append] at hmem
      exact hmem.imp_right fun h => absurd h (by decide)
    · rw [Path.base_eq_bytes (by simpa using hslash)]
      exact .inl hmem
  refine ⟨above, rights, ?_, hdir⟩
  rw [resolve, resolveAs_of_follow hbytes hp (by omega), habove]

end Join

end EntityGraph.FileTree
