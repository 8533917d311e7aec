import EntityGraph.Text.Blank
import EntityGraph.Text.Split
import Mathlib.Data.List.Basic
import Mathlib.Data.List.DropRight
import Mathlib.Data.List.Infix
import Mathlib.Data.List.TakeWhile

namespace EntityGraph.Text

theorem joinWith_append {α : Type} {separator : α} {xs ys : List (List α)} (hxs : xs ≠ [])
    (hys : ys ≠ []) :
    joinWith [separator] (xs ++ ys) =
      joinWith [separator] xs ++ separator :: joinWith [separator] ys := by
  induction xs with
  | nil => exact absurd rfl hxs
  | cons x xs ih =>
      cases xs with
      | nil =>
          cases ys with
          | nil => exact absurd rfl hys
          | cons y ys => simp [joinWith]
      | cons next xs =>
          have hrest := ih (List.cons_ne_nil next xs)
          rw [List.cons_append] at hrest
          simp only [List.cons_append, joinWith, hrest, List.append_assoc]

theorem joinWith_infix {α : Type} {separator : α} {xs ys : List (List α)} (h : xs <:+: ys) :
    joinWith [separator] xs <:+: joinWith [separator] ys := by
  obtain ⟨before, after, rfl⟩ := h
  rcases eq_or_ne xs [] with rfl | hxs
  · exact List.nil_infix
  have hprefix : joinWith [separator] xs <+: joinWith [separator] (xs ++ after) := by
    rcases eq_or_ne after [] with rfl | hafter
    · rw [List.append_nil]
    · rw [joinWith_append hxs hafter]
      exact List.prefix_append _ _
  rw [List.append_assoc]
  rcases eq_or_ne before [] with rfl | hbefore
  · exact hprefix.isInfix
  · rw [joinWith_append hbefore (List.append_ne_nil_of_left_ne_nil hxs after)]
    exact hprefix.isInfix.trans ((List.suffix_cons _ _).trans (List.suffix_append _ _)).isInfix

section Split

variable {α : Type} [DecidableEq α] {separator : α}

theorem splitOn_of_notMem {cs : List α} (h : separator ∉ cs) : splitOn separator cs = [cs] := by
  induction cs with
  | nil => rfl
  | cons c cs ih =>
      rw [List.mem_cons, not_or] at h
      simp [splitOn, Ne.symm h.1, ih h.2]

theorem splitOn_append (xs ys : List α) :
    splitOn separator (xs ++ separator :: ys) = splitOn separator xs ++ splitOn separator ys := by
  induction xs with
  | nil => simp [splitOn]
  | cons x xs ih =>
      by_cases hx : x = separator
      · simp [splitOn, hx, ih]
      · simp only [List.cons_append, splitOn, if_neg hx, ih]
        cases hs : splitOn separator xs with
        | nil => exact absurd hs (splitOn_ne_nil separator xs)
        | cons part parts => simp

theorem splitOn_append_of_notMem {xs ys part : List α} {parts : List (List α)}
    (h : separator ∉ xs) (hys : splitOn separator ys = part :: parts) :
    splitOn separator (xs ++ ys) = (xs ++ part) :: parts := by
  induction xs with
  | nil => exact hys
  | cons x xs ih =>
      rw [List.mem_cons, not_or] at h
      rw [List.cons_append, splitOn, if_neg (Ne.symm h.1), ih h.2]
      rfl

theorem splitOn_joinWith {parts : List (List α)} (hne : parts ≠ [])
    (h : ∀ part ∈ parts, separator ∉ part) :
    splitOn separator (joinWith [separator] parts) = parts := by
  induction parts with
  | nil => exact absurd rfl hne
  | cons part parts ih =>
      have hpart : separator ∉ part := h part List.mem_cons_self
      cases parts with
      | nil => exact splitOn_of_notMem hpart
      | cons next parts =>
          have hrest := ih (by simp) fun q hq => h q (List.mem_cons_of_mem _ hq)
          rw [joinWith, List.append_assoc, List.singleton_append, splitOn_append, hrest,
            splitOn_of_notMem hpart]
          · rfl
          · simp

end Split

section Trim

variable {p : Char → Bool} {cs xs ys : List Char}

theorem dropWhile_trimBy (p : Char → Bool) (cs : List Char) :
    (trimBy p cs).dropWhile p = trimBy p cs := by
  rw [List.dropWhile_eq_self_iff]
  intro hlength
  have hkept : trimBy p cs <+: cs.dropWhile p := List.rdropWhile_prefix p _
  rw [hkept.getElem hlength]
  exact List.dropWhile_get_zero_not p cs _

theorem dropWhileEnd_trimBy (p : Char → Bool) (cs : List Char) :
    dropWhileEnd p (trimBy p cs) = trimBy p cs :=
  List.rdropWhile_idempotent p (cs.dropWhile p)

theorem trimBy_trimBy (p : Char → Bool) (cs : List Char) : trimBy p (trimBy p cs) = trimBy p cs := by
  rw [trimBy, dropWhile_trimBy, dropWhileEnd_trimBy]

theorem trimBy_infix (p : Char → Bool) (cs : List Char) : trimBy p cs <:+: cs := by
  have hkept : trimBy p cs <+: cs.dropWhile p := List.rdropWhile_prefix p _
  exact hkept.isInfix.trans (List.dropWhile_suffix p).isInfix

structure EndsWithout (p : Char → Bool) (cs : List Char) : Prop where
  first : ∀ c ∈ cs.head?, p c = false
  last : ∀ c ∈ cs.getLast?, p c = false

theorem trimBy_eq_self_iff : trimBy p cs = cs ↔ EndsWithout p cs := by
  constructor
  · intro h
    have hfirst : cs.dropWhile p = cs := h ▸ dropWhile_trimBy p cs
    have hlast : List.rdropWhile p cs = cs := h ▸ dropWhileEnd_trimBy p cs
    cases cs with
    | nil => exact ⟨by simp, by simp⟩
    | cons c cs =>
        rw [List.rdropWhile_eq_self_iff] at hlast
        refine ⟨?_, ?_⟩
        · intro d hd
          obtain rfl : c = d := Option.some.inj hd
          simpa [List.dropWhile_eq_self_iff] using hfirst
        · intro d hd
          rw [List.getLast?_eq_some_getLast (by simp), Option.mem_some_iff] at hd
          simpa [hd] using hlast
  · rintro ⟨hfirst, hlast⟩
    cases cs with
    | nil => rfl
    | cons c cs =>
        rw [trimBy, List.dropWhile_cons_of_neg (by simp [hfirst c rfl])]
        exact dropWhileEnd_eq_self hlast

instance (p : Char → Bool) (cs : List Char) : Decidable (EndsWithout p cs) :=
  decidable_of_iff _ trimBy_eq_self_iff

theorem trimBy_append (hne : xs ≠ []) (hfirst : ∀ c ∈ xs.head?, p c = false) (hysne : ys ≠ [])
    (hys : trimBy p ys = ys) : trimBy p (xs ++ ys) = xs ++ ys := by
  rw [trimBy_eq_self_iff] at hys ⊢
  refine ⟨?_, ?_⟩
  · rwa [List.head?_append_of_ne_nil xs hne]
  · rw [List.getLast?_append_of_ne_nil xs hysne]
    exact hys.last

def Padded (p : Char → Bool) (xs ys : List Char) : Prop :=
  ∃ before after, (∀ c ∈ before, p c = true) ∧ (∀ c ∈ after, p c = true) ∧ ys = before ++ xs ++ after

theorem padded_trimBy (p : Char → Bool) (cs : List Char) : Padded p (trimBy p cs) cs := by
  refine ⟨cs.takeWhile p, List.rtakeWhile p (cs.dropWhile p), ?_, ?_, ?_⟩
  · exact fun c hc => List.mem_takeWhile_imp hc
  · exact fun c hc => List.mem_rtakeWhile_imp hc
  · have hsplit : trimBy p cs ++ List.rtakeWhile p (cs.dropWhile p) = cs.dropWhile p :=
      List.rdropWhile_append_rtakeWhile
    rw [List.append_assoc, hsplit, List.takeWhile_append_dropWhile]

theorem trimBy_eq_of_padded (h : Padded p xs ys) : trimBy p ys = trimBy p xs := by
  obtain ⟨before, after, hbefore, hafter, rfl⟩ := h
  have hend : ∀ zs : List Char, dropWhileEnd p (zs ++ after) = dropWhileEnd p zs := by
    intro zs
    rw [dropWhileEnd, List.reverse_append, List.dropWhile_append_of_pos (by simpa using hafter)]
    rfl
  rw [trimBy, List.append_assoc, List.dropWhile_append_of_pos hbefore, List.dropWhile_append]
  split
  · rename_i hempty
    rw [List.dropWhile_eq_nil_iff.mpr hafter, trimBy, List.isEmpty_iff.mp hempty]
  · exact hend _

end Trim

section LastPart

variable {separator cs before rest xs ys : List Char}

theorem afterLast_eq_none_iff (hne : separator ≠ []) :
    afterLast separator cs = none ↔ ¬separator <:+: cs := by
  induction cs with
  | nil => simp [afterLast, hne]
  | cons c cs ih =>
      have hstrip : stripStart? separator (c :: cs) = none ↔ ¬separator <+: c :: cs := by
        rw [Option.eq_none_iff_forall_ne_some]
        simp only [ne_eq, stripStart?_eq_some_iff]
        exact ⟨fun h ⟨rest, hrest⟩ => h rest hrest.symm, fun h rest hrest => h ⟨rest, hrest.symm⟩⟩
      rw [afterLast, List.infix_cons_iff, not_or, ← hstrip, ← ih]
      cases afterLast separator cs <;> simp

theorem afterLast_eq_some_iff (hne : separator ≠ []) :
    afterLast separator cs = some rest ↔
      ∃ before, cs = before ++ separator ++ rest ∧ ¬separator <:+: separator.tail ++ rest := by
  obtain ⟨c₀, tail, rfl⟩ := List.exists_cons_of_ne_nil hne
  constructor
  · intro h
    induction cs with
    | nil => cases h
    | cons c cs ih =>
        rw [afterLast] at h
        cases hcs : afterLast (c₀ :: tail) cs with
        | some found =>
            rw [hcs] at h
            obtain rfl : found = rest := Option.some.inj h
            obtain ⟨before, hbefore, hlast⟩ := ih hcs
            exact ⟨c :: before, by simp [hbefore], hlast⟩
        | none =>
            rw [hcs] at h
            have hstart := stripStart?_eq_some_iff.mp h
            rw [afterLast_eq_none_iff hne] at hcs
            obtain ⟨-, rfl⟩ := List.cons.inj hstart
            exact ⟨[], by simpa using hstart, hcs⟩
  · rintro ⟨before, rfl, hlast⟩
    induction before with
    | nil =>
        have hnone : afterLast (c₀ :: tail) (tail ++ rest) = none :=
          (afterLast_eq_none_iff hne).mpr hlast
        rw [List.nil_append, List.cons_append, afterLast, hnone]
        exact stripStart?_eq_some_iff.mpr rfl
    | cons b before ih => rw [List.cons_append, List.cons_append, afterLast, ih]

def lastPart (separator cs : List Char) : List Char :=
  (afterLast separator cs).getD cs

theorem lastPart_eq_self (h : ¬separator <:+: cs) : lastPart separator cs = cs := by
  have hne : separator ≠ [] := by
    rintro rfl
    exact h List.nil_infix
  rw [lastPart, (afterLast_eq_none_iff hne).mpr h, Option.getD_none]

theorem lastPart_of_last (hne : separator ≠ []) (h : ¬separator <:+: separator.tail ++ rest) :
    lastPart separator (before ++ separator ++ rest) = rest := by
  rw [lastPart, (afterLast_eq_some_iff hne).mpr ⟨before, rfl, h⟩, Option.getD_some]

theorem exists_last (hne : separator ≠ []) (h : separator <:+: cs) :
    ∃ before rest, cs = before ++ separator ++ rest ∧ ¬separator <:+: separator.tail ++ rest ∧
      lastPart separator cs = rest := by
  cases hrest : afterLast separator cs with
  | none => exact absurd h ((afterLast_eq_none_iff hne).mp hrest)
  | some rest =>
      obtain ⟨before, hcs, hlast⟩ := (afterLast_eq_some_iff hne).mp hrest
      exact ⟨before, rest, hcs, hlast, by rw [lastPart, hrest, Option.getD_some]⟩

theorem lastPart_suffix (hne : separator ≠ []) (cs : List Char) : lastPart separator cs <:+ cs := by
  by_cases h : separator <:+: cs
  · obtain ⟨before, rest, hcs, -, hrest⟩ := exists_last hne h
    exact ⟨before ++ separator, by rw [hrest, hcs]⟩
  · rw [lastPart_eq_self h]

theorem not_infix_lastPart (hne : separator ≠ []) (cs : List Char) :
    ¬separator <:+: lastPart separator cs := by
  by_cases h : separator <:+: cs
  · obtain ⟨before, rest, -, hlast, hrest⟩ := exists_last hne h
    rw [hrest]
    exact fun hin => hlast (hin.trans (List.suffix_append _ _).isInfix)
  · rwa [lastPart_eq_self h]

theorem lastPart_append (hne : separator ≠ []) (h : separator <:+: ys) (xs : List Char) :
    lastPart separator (xs ++ ys) = lastPart separator ys := by
  obtain ⟨before, rest, rfl, hlast, hrest⟩ := exists_last hne h
  rw [hrest, ← List.append_assoc, ← List.append_assoc]
  exact lastPart_of_last hne hlast

theorem infix_of_infix_append (hys : ¬separator <:+: ys) (hfirst : ∀ c ∈ ys.head?, c ∉ separator)
    (h : separator <:+: xs ++ ys) : separator <:+: xs := by
  rcases List.infix_append_iff.mp h with hxs | hin | ⟨left, right, rfl, hleft, hright⟩
  · exact hxs
  · exact absurd hin hys
  · cases right with
    | nil => simpa using hleft.isInfix
    | cons c right =>
        obtain ⟨more, rfl⟩ := hright
        exact absurd (by simp) (hfirst c rfl)

section Padding

variable {p : Char → Bool} (hne : separator ≠ []) (hseparator : ∀ c ∈ separator, p c = false)
include hne hseparator

theorem not_infix_of_forall (h : ∀ c ∈ cs, p c = true) : ¬separator <:+: cs := by
  intro hin
  obtain ⟨c, tail, rfl⟩ := List.exists_cons_of_ne_nil hne
  have hc : c ∈ cs := hin.subset List.mem_cons_self
  exact absurd (h c hc) (by simp [hseparator c List.mem_cons_self])

theorem infix_of_padded (hpadded : Padded p xs ys) (h : separator <:+: ys) : separator <:+: xs := by
  obtain ⟨before, after, hbefore, hafter, rfl⟩ := hpadded
  have hafter' : separator <:+: before ++ xs := by
    refine infix_of_infix_append (not_infix_of_forall hne hseparator hafter) ?_ h
    intro c hc hmem
    have hp := hafter c (List.mem_of_mem_head? hc)
    exact absurd hp (by simp [hseparator c hmem])
  rcases List.infix_append_iff.mp hafter' with hin | hxs | ⟨left, right, rfl, hleft, hright⟩
  · exact absurd hin (not_infix_of_forall hne hseparator hbefore)
  · exact hxs
  · cases left with
    | nil => exact hright.isInfix
    | cons c left =>
        have hp := hbefore c (hleft.subset List.mem_cons_self)
        exact absurd hp (by simp [hseparator c (by simp)])

theorem padded_lastPart (hpadded : Padded p xs ys) :
    Padded p (lastPart separator xs) (lastPart separator ys) := by
  by_cases h : separator <:+: xs
  · obtain ⟨before, after, hbefore, hafter, rfl⟩ := hpadded
    obtain ⟨first, rest, rfl, hlast, hrest⟩ := exists_last hne h
    have hlast' : ¬separator <:+: separator.tail ++ (rest ++ after) := fun hin =>
      hlast (infix_of_padded hne hseparator ⟨[], after, by simp, hafter, by simp⟩ hin)
    have hys : lastPart separator (before ++ first ++ separator ++ (rest ++ after)) = rest ++ after :=
      lastPart_of_last hne hlast'
    rw [hrest]
    refine ⟨[], after, by simp, hafter, ?_⟩
    simpa using hys
  · have hys : ¬separator <:+: ys := mt (infix_of_padded hne hseparator hpadded) h
    rwa [lastPart_eq_self h, lastPart_eq_self hys]

end Padding

theorem exists_lastPart_append_cons {c : Char} (hne : separator ≠ []) (hc : c ∉ separator)
    (hys : ¬separator <:+: ys) (xs : List Char) :
    ∃ rest, lastPart separator (xs ++ c :: ys) = rest ++ c :: ys := by
  have hcut : ∀ zs : List Char, separator <:+: zs ++ c :: ys → separator <:+: zs := by
    intro zs
    refine infix_of_infix_append ?_ (by simpa using hc)
    rw [List.infix_cons_iff, not_or]
    refine ⟨?_, hys⟩
    rintro ⟨more, hmore⟩
    obtain ⟨first, tail, rfl⟩ := List.exists_cons_of_ne_nil hne
    obtain ⟨rfl, -⟩ := List.cons.inj hmore
    exact hc List.mem_cons_self
  by_cases h : separator <:+: xs
  · obtain ⟨before, rest, rfl, hlast, -⟩ := exists_last hne h
    have hlast' : ¬separator <:+: separator.tail ++ (rest ++ c :: ys) := by
      rw [← List.append_assoc]
      exact mt (hcut _) hlast
    refine ⟨rest, ?_⟩
    rw [List.append_assoc]
    exact lastPart_of_last hne hlast'
  · exact ⟨xs, lastPart_eq_self (mt (hcut xs) h)⟩

theorem lastPart_singleton_append_cons (c : Char) (xs ys : List Char) :
    lastPart [c] (xs ++ c :: ys) = lastPart [c] ys := by
  by_cases h : [c] <:+: ys
  · have happend := lastPart_append (by simp) h (xs ++ [c])
    rwa [List.append_assoc] at happend
  · have hlast : lastPart [c] (xs ++ [c] ++ ys) = ys := lastPart_of_last (by simp) h
    rw [lastPart_eq_self h]
    rwa [List.append_assoc] at hlast

end LastPart

end EntityGraph.Text
