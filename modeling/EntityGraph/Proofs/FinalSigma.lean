import EntityGraph.Text.Lowercase
import EntityGraph.Text.Split
import Mathlib.Data.List.Basic
import Mathlib.Data.List.Infix
/-!
Lower casing part of a text. A capital sigma is the one character whose lower case depends on what
stands around it, so a part of a text has the same lower case on its own exactly if that settles the
forms of its sigmas.
-/

namespace EntityGraph.Text

namespace Lowercase

variable {before after xs ys s : List Char}

def sigma (before after : List Char) : Char :=
  if reachesCased before && !reachesCased after then 'ς' else 'σ'

/-- Lower-cases the second list, which stands after the reverse of the first and before the last. -/
def mapWithin : List Char → List Char → List Char → List Char
  | _, [], _ => []
  | before, c :: cs, after =>
      (if c = 'Σ' then [sigma before (cs ++ after)] else ofChar c) ++ mapWithin (c :: before) cs after

def Skipped (cs : List Char) : Prop :=
  ∀ c ∈ cs, isIgnorable c = true

/-- What stands further out can change the form of a sigma between the two lists. -/
def Loose (before after : List Char) : Prop :=
  (Skipped before ∧ reachesCased after = false) ∨ (reachesCased before = true ∧ Skipped after)

def KeepsSigmas (left s right : List Char) : Prop :=
  ∀ xs ys, s = xs ++ 'Σ' :: ys →
    sigma (xs.reverse ++ left.reverse) (ys ++ right) = sigma xs.reverse ys

def Settled (s : List Char) : Prop :=
  ∀ xs ys, s = xs ++ 'Σ' :: ys → ¬Loose xs.reverse ys

instance : DecidablePred Skipped := fun _ => decidable_of_iff _ List.all_eq_true

instance (before after : List Char) : Decidable (Loose before after) :=
  inferInstanceAs (Decidable ((Skipped before ∧ reachesCased after = false) ∨
    (reachesCased before = true ∧ Skipped after)))

theorem settled_iff_forall_lt : Settled s ↔ ∀ i < s.length,
    s.drop i = 'Σ' :: s.drop (i + 1) → ¬Loose (s.take i).reverse (s.drop (i + 1)) := by
  constructor
  · intro h i _ hdrop
    refine h (s.take i) (s.drop (i + 1)) ?_
    rw [← hdrop, List.take_append_drop]
  · rintro h xs ys rfl
    simpa using h xs.length (by simp)

instance : DecidablePred Settled := fun _ => decidable_of_iff _ settled_iff_forall_lt.symm

section Within

theorem mapWithin_nil (before s : List Char) : mapWithin before s [] = mapFrom before s := by
  induction s generalizing before with
  | nil => rfl
  | cons c s ih =>
      rw [mapWithin, mapFrom, ih, List.append_nil, sigma]
      split
      · split <;> rfl
      · rfl

theorem mapWithin_append (before xs ys after : List Char) :
    mapWithin before (xs ++ ys) after =
      mapWithin before xs (ys ++ after) ++ mapWithin (xs.reverse ++ before) ys after := by
  induction xs generalizing before with
  | nil => rfl
  | cons x xs ih =>
      rw [List.cons_append, mapWithin, mapWithin, ih, List.append_assoc, List.append_assoc,
        List.reverse_cons, List.append_assoc, List.singleton_append]

theorem lowercase_eq (s : List Char) : lowercase s = mapWithin [] s [] :=
  (mapWithin_nil [] s).symm

theorem mapWithin_infix (left s right : List Char) :
    mapWithin left.reverse s right <:+: lowercase (left ++ s ++ right) := by
  rw [lowercase_eq, mapWithin_append, mapWithin_append, List.append_nil, List.append_nil,
    List.append_nil]
  exact List.infix_append _ _ _

theorem mapWithin_congr {before' after' : List Char}
    (h : ∀ xs ys, s = xs ++ 'Σ' :: ys →
      sigma (xs.reverse ++ before) (ys ++ after) = sigma (xs.reverse ++ before') (ys ++ after')) :
    mapWithin before s after = mapWithin before' s after' := by
  induction s generalizing before before' with
  | nil => rfl
  | cons c s ih =>
      have hrest : mapWithin (c :: before) s after = mapWithin (c :: before') s after' := by
        refine ih ?_
        intro xs ys hs
        simpa using h (c :: xs) ys (by rw [hs, List.cons_append])
      rw [mapWithin, mapWithin, hrest]
      split
      · rename_i hc
        have hform := h [] s (by rw [hc, List.nil_append])
        rw [List.reverse_nil, List.nil_append, List.nil_append] at hform
        rw [hform]
      · rfl

theorem count_mapWithin_le {before' after' : List Char} (form : Char)
    (h : ∀ xs ys, s = xs ++ 'Σ' :: ys → sigma (xs.reverse ++ before) (ys ++ after) = form →
      sigma (xs.reverse ++ before') (ys ++ after') = form) :
    (mapWithin before s after).count form ≤ (mapWithin before' s after').count form := by
  induction s generalizing before before' with
  | nil => rfl
  | cons c s ih =>
      have hrest : (mapWithin (c :: before) s after).count form ≤
          (mapWithin (c :: before') s after').count form := by
        refine ih ?_
        intro xs ys hs
        simpa using h (c :: xs) ys (by rw [hs, List.cons_append])
      rw [mapWithin, mapWithin, List.count_append, List.count_append]
      refine Nat.add_le_add ?_ hrest
      split
      · rename_i hc
        have hform := h [] s (by rw [hc, List.nil_append])
        rw [List.reverse_nil, List.nil_append, List.nil_append] at hform
        rw [List.count_singleton, List.count_singleton]
        split
        · rename_i heq
          rw [if_pos (by simpa using hform (by simpa using heq))]
        · exact Nat.zero_le _
      · exact Nat.le_refl _

theorem count_mapWithin_lt {before' after' : List Char} {form : Char}
    (h : ∀ xs ys, s = xs ++ 'Σ' :: ys → sigma (xs.reverse ++ before) (ys ++ after) = form →
      sigma (xs.reverse ++ before') (ys ++ after') = form)
    (hs : s = xs ++ 'Σ' :: ys) (hother : sigma (xs.reverse ++ before) (ys ++ after) ≠ form)
    (hform : sigma (xs.reverse ++ before') (ys ++ after') = form) :
    (mapWithin before s after).count form < (mapWithin before' s after').count form := by
  subst hs
  have hleft : (mapWithin before xs ('Σ' :: ys ++ after)).count form ≤
      (mapWithin before' xs ('Σ' :: ys ++ after')).count form := by
    refine count_mapWithin_le form ?_
    intro us vs hxs
    simpa using h us (vs ++ 'Σ' :: ys) (by simp [hxs])
  have hright : (mapWithin ('Σ' :: (xs.reverse ++ before)) ys after).count form ≤
      (mapWithin ('Σ' :: (xs.reverse ++ before')) ys after').count form := by
    refine count_mapWithin_le form ?_
    intro us vs hys
    simpa using h (xs ++ 'Σ' :: us) vs (by simp [hys])
  simp only [mapWithin_append, mapWithin, if_pos, List.count_append, hform, List.count_singleton_self,
    List.count_singleton, beq_iff_eq, if_neg hother]
  omega

end Within

section Around

theorem reachesCased_append_of_skipped (h : Skipped xs) (ys : List Char) :
    reachesCased (xs ++ ys) = reachesCased ys := by
  induction xs with
  | nil => rfl
  | cons x xs ih =>
      rw [List.cons_append, reachesCased, if_pos (h x List.mem_cons_self)]
      exact ih fun c hc => h c (List.mem_cons_of_mem x hc)

theorem reachesCased_of_skipped (h : Skipped xs) : reachesCased xs = false := by
  have happend := reachesCased_append_of_skipped h []
  rwa [List.append_nil] at happend

theorem reachesCased_append_of_not_skipped (h : ¬Skipped xs) (ys : List Char) :
    reachesCased (xs ++ ys) = reachesCased xs := by
  induction xs with
  | nil => exact absurd (by simp [Skipped]) h
  | cons x xs ih =>
      rw [List.cons_append, reachesCased, reachesCased]
      split
      · rename_i hx
        refine ih ?_
        intro hxs
        exact h fun c hc => (List.mem_cons.mp hc).elim (fun heq => heq ▸ hx) (hxs c)
      · rfl

theorem not_skipped_of_reachesCased (h : reachesCased xs = true) : ¬Skipped xs := by
  intro hskipped
  rw [reachesCased_of_skipped hskipped] at h
  cases h

theorem sigma_eq_final_iff :
    sigma before after = 'ς' ↔ reachesCased before = true ∧ reachesCased after = false := by
  cases hbefore : reachesCased before <;> cases hafter : reachesCased after <;>
    simp [sigma, hbefore, hafter]

theorem sigma_eq_small_iff :
    sigma before after = 'σ' ↔ ¬(reachesCased before = true ∧ reachesCased after = false) := by
  cases hbefore : reachesCased before <;> cases hafter : reachesCased after <;>
    simp [sigma, hbefore, hafter]

theorem sigma_append_of_not_loose (h : ¬Loose before after) (xs ys : List Char) :
    sigma (before ++ xs) (after ++ ys) = sigma before after := by
  obtain ⟨hbefore, hafter⟩ := not_or.mp h
  by_cases hskipped : Skipped before
  · -- A cased letter follows, so nothing further out makes this sigma a final one.
    have hcased : reachesCased after = true := by
      simpa using fun hnot => hbefore ⟨hskipped, hnot⟩
    have happend := reachesCased_append_of_not_skipped (not_skipped_of_reachesCased hcased) ys
    simp [sigma, happend, hcased]
  · have happend := reachesCased_append_of_not_skipped hskipped xs
    cases hcased : reachesCased before with
    | false => simp [sigma, happend, hcased]
    | true =>
        have hopen : ¬Skipped after := fun hskipped => hafter ⟨hcased, hskipped⟩
        rw [sigma, sigma, happend, reachesCased_append_of_not_skipped hopen]

end Around

section Settled

theorem keepsSigmas_of_settled (h : Settled s) (left right : List Char) :
    KeepsSigmas left s right :=
  fun xs ys hs => sigma_append_of_not_loose (h xs ys hs) left.reverse right

theorem settled_of_notMem (h : 'Σ' ∉ s) : Settled s := by
  rintro xs ys rfl
  exact absurd (by simp) h

theorem lowercase_infix_of_keepsSigmas {left right : List Char} (h : KeepsSigmas left s right) :
    lowercase s <:+: lowercase (left ++ s ++ right) := by
  have hsame : mapWithin left.reverse s right = lowercase s := by
    rw [lowercase_eq]
    refine mapWithin_congr ?_
    simpa [KeepsSigmas] using h
  exact hsame ▸ mapWithin_infix left s right

theorem reachesCased_letter : reachesCased ['A'] = true := by decide +kernel

theorem not_infix_of_skipped_before (hs : s = xs ++ 'Σ' :: ys) (hskipped : Skipped xs.reverse)
    (hcased : reachesCased ys = false) : ¬lowercase s <:+: lowercase ('A' :: s) := by
  -- The letter makes final at least one sigma more.
  have hlt : (mapWithin ['A'] s []).count 'σ' < (mapWithin [] s []).count 'σ' := by
    refine count_mapWithin_lt ?_ hs ?_ ?_
    · intro us vs _
      rw [sigma_eq_small_iff, sigma_eq_small_iff, List.append_nil, List.append_nil]
      rintro hnot ⟨hbefore, hafter⟩
      rw [reachesCased_append_of_not_skipped (not_skipped_of_reachesCased hbefore)] at hnot
      exact hnot ⟨hbefore, hafter⟩
    · rw [ne_eq, sigma_eq_small_iff, not_not, List.append_nil,
        reachesCased_append_of_skipped hskipped]
      exact ⟨reachesCased_letter, hcased⟩
    · rw [sigma_eq_small_iff, List.append_nil, reachesCased_of_skipped hskipped]
      simp
  intro hinfix
  have hle := hinfix.sublist.count_le 'σ'
  have hcons : lowercase ('A' :: s) = ofChar 'A' ++ mapWithin ['A'] s [] := by
    rw [lowercase_eq, mapWithin, if_neg (by decide)]
  have hnone : (ofChar 'A').count 'σ' = 0 := by decide
  rw [hcons, lowercase_eq, List.count_append, hnone] at hle
  omega

theorem not_infix_of_skipped_after (hs : s = xs ++ 'Σ' :: ys)
    (hcased : reachesCased xs.reverse = true) (hskipped : Skipped ys) :
    ¬lowercase s <:+: lowercase (s ++ ['A']) := by
  -- The letter takes its final form from at least one sigma.
  have hlt : (mapWithin [] s ['A']).count 'ς' < (mapWithin [] s []).count 'ς' := by
    refine count_mapWithin_lt ?_ hs ?_ ?_
    · intro us vs _
      rw [sigma_eq_final_iff, sigma_eq_final_iff, List.append_nil, List.append_nil]
      rintro ⟨hbefore, hafter⟩
      refine ⟨hbefore, ?_⟩
      by_cases hvs : Skipped vs
      · exact reachesCased_of_skipped hvs
      · rwa [reachesCased_append_of_not_skipped hvs] at hafter
    · rw [ne_eq, sigma_eq_final_iff, reachesCased_append_of_skipped hskipped, reachesCased_letter]
      simp
    · rw [sigma_eq_final_iff, List.append_nil, List.append_nil]
      exact ⟨hcased, reachesCased_of_skipped hskipped⟩
  intro hinfix
  have hle := hinfix.sublist.count_le 'ς'
  have hnone : (mapWithin s.reverse ['A'] []).count 'ς' = 0 := by
    rw [mapWithin, mapWithin, if_neg (by decide)]
    decide
  rw [lowercase_eq, lowercase_eq, mapWithin_append, List.append_nil, List.append_nil,
    List.count_append, hnone] at hle
  omega

theorem settled_iff : Settled s ↔ ∀ t, s <:+: t → lowercase s <:+: lowercase t := by
  constructor
  · rintro h t ⟨left, right, rfl⟩
    exact lowercase_infix_of_keepsSigmas (keepsSigmas_of_settled h left right)
  · rintro h xs ys hs (⟨hskipped, hcased⟩ | ⟨hcased, hskipped⟩)
    · exact not_infix_of_skipped_before hs hskipped hcased
        (h ('A' :: s) (List.suffix_cons 'A' s).isInfix)
    · exact not_infix_of_skipped_after hs hcased hskipped
        (h (s ++ ['A']) (List.prefix_append s ['A']).isInfix)

example : Settled "ΣΟΦΙΑ".toList ∧ ¬Settled "ΟΔΟΣ".toList := by
  decide +kernel

end Settled

end Lowercase

end EntityGraph.Text
