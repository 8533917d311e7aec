import EntityGraph.Text.Utf8
import Mathlib.Algebra.Group.Nat.Defs
import Mathlib.Data.List.Basic

namespace EntityGraph.Utf8

theorem unitsFrom_append (pending : Option Pending) (xs ys : List UInt8)
    (h : none ∉ unitsFrom pending xs) :
    unitsFrom pending (xs ++ ys) = unitsFrom pending xs ++ unitsFrom none ys := by
  induction xs generalizing pending with
  | nil =>
      cases pending with
      | none => rfl
      | some p => simp [unitsFrom] at h
  | cons byte xs ih =>
      cases pending with
      | none =>
          simp only [List.cons_append, unitsFrom] at h ⊢
          cases hlead : lead byte with
          | whole unit =>
              rw [hlead] at h
              simp only [List.mem_cons, not_or] at h
              simp [ih none h.2]
          | begun p =>
              rw [hlead] at h
              exact ih (some p) h
      | some p =>
          simp only [List.cons_append, unitsFrom] at h ⊢
          by_cases haccepts : p.accepts byte = true
          · rw [if_pos haccepts] at h
            rw [if_pos haccepts, if_pos haccepts]
            by_cases hmissing : p.missing = 1
            · rw [if_pos hmissing] at h
              simp only [List.mem_cons, not_or] at h
              simp [hmissing, ih none h.2]
            · rw [if_neg hmissing] at h
              simp [hmissing, ih (some (p.push byte)) h]
          · rw [if_neg haccepts] at h
            simp at h

theorem mapM_id_eq_some {l : List (Option Char)} {cs : List Char} :
    l.mapM id = some cs ↔ l = cs.map some := by
  induction l generalizing cs with
  | nil => cases cs <;> simp
  | cons u l ih =>
      cases u with
      | none => cases cs <;> simp
      | some c =>
          cases cs with
          | nil => simp [Option.bind_eq_some_iff]
          | cons d cs =>
              simp only [List.mapM_cons, id, Option.pure_def, Option.bind_eq_bind, Option.bind_some,
                Option.bind_eq_some_iff, Option.some.injEq, List.cons.injEq, List.map_cons, ih]
              constructor
              · rintro ⟨ds, hl, hc, rfl⟩
                exact ⟨hc, hl⟩
              · rintro ⟨hc, hl⟩
                exact ⟨cs, hl, hc, rfl⟩

theorem decode?_eq_some {bytes : List UInt8} {cs : List Char} :
    decode? bytes = some cs ↔ units bytes = cs.map some :=
  mapM_id_eq_some

theorem decode?_append {xs ys : List UInt8} {cs ds : List Char} (hx : decode? xs = some cs)
    (hy : decode? ys = some ds) : decode? (xs ++ ys) = some (cs ++ ds) := by
  rw [decode?_eq_some] at hx hy ⊢
  have hnone : none ∉ unitsFrom none xs := by
    have hunits : unitsFrom none xs = cs.map some := hx
    simp [hunits]
  have happend := unitsFrom_append none xs ys hnone
  rw [units, happend, List.map_append]
  exact congrArg₂ _ hx hy

section Spelling

variable {n k : Nat} {byte : UInt8} {c : Char} {p : Pending} {bytes : List UInt8}
  {us : List (Option Char)}

def lastBytes (n : Nat) : Nat → List UInt8
  | 0 => []
  | k + 1 => UInt8.ofNat (n / 64 ^ k % 64 + 0x80) :: lastBytes n k

def spelled (n : Nat) : List UInt8 :=
  if n ≤ 0x7F then [UInt8.ofNat n]
  else if n ≤ 0x7FF then UInt8.ofNat (n / 64 ^ 1 % 0x20 + 0xC0) :: lastBytes n 1
  else if n ≤ 0xFFFF then UInt8.ofNat (n / 64 ^ 2 % 0x10 + 0xE0) :: lastBytes n 2
  else UInt8.ofNat (n / 64 ^ 3 % 8 + 0xF0) :: lastBytes n 3

theorem utf8EncodeChar_eq_spelled (c : Char) : String.utf8EncodeChar c = spelled c.val.toNat := by
  rw [String.utf8EncodeChar.eq_1, spelled]
  simp [lastBytes]

theorem utf8EncodeChar_ofNat (h : n.isValidChar) :
    String.utf8EncodeChar (Char.ofNat n) = spelled n := by
  have hval : (Char.ofNat n).val.toNat = n := by
    rw [Char.ofNat, dif_pos h]
    rfl
  rw [utf8EncodeChar_eq_spelled, hval]

theorem ofNat_eq (byte : UInt8) (h : n = byte.toNat) : UInt8.ofNat n = byte := by
  rw [h, UInt8.ofNat_toNat]

theorem div_div_pow (n k : Nat) : n / 64 ^ (k + 1) = n / 64 ^ k / 64 := by
  rw [Nat.pow_succ, Nat.div_div_eq_div_mul]

theorem lastBytes_succ (h : n / 64 ^ k % 64 + 0x80 = byte.toNat) :
    lastBytes n (k + 1) = byte :: lastBytes n k := by
  rw [lastBytes, ofNat_eq byte h]

theorem utf8EncodeChar_one (h : byte.toNat < 0x80) :
    String.utf8EncodeChar (Char.ofNat byte.toNat) = [byte] := by
  rw [utf8EncodeChar_ofNat (.inl (by omega)), spelled, if_pos (by omega), UInt8.ofNat_toNat]

theorem utf8EncodeChar_two (hfirst : n / 64 ^ 1 + 0xC0 = byte.toNat) (hleast : 2 ≤ n / 64 ^ 1)
    (hmost : n / 64 ^ 1 < 0x20) :
    String.utf8EncodeChar (Char.ofNat n) = byte :: lastBytes n 1 := by
  rw [utf8EncodeChar_ofNat (.inl (by omega)), spelled, if_neg (by omega), if_pos (by omega),
    Nat.mod_eq_of_lt hmost, ofNat_eq byte hfirst]

theorem utf8EncodeChar_three (hfirst : n / 64 ^ 2 + 0xE0 = byte.toNat) (hmost : n / 64 ^ 2 < 0x10)
    (hleast : n / 64 ^ 2 = 0 → 0xA0 ≤ n / 64 ^ 1 % 64 + 0x80)
    (hsurrogate : n / 64 ^ 2 = 0xD → n / 64 ^ 1 % 64 + 0x80 ≤ 0x9F) :
    String.utf8EncodeChar (Char.ofNat n) = byte :: lastBytes n 2 := by
  have hvalid : n.isValidChar := by
    unfold Nat.isValidChar
    omega
  rw [utf8EncodeChar_ofNat hvalid, spelled, if_neg (by omega), if_neg (by omega),
    if_pos (by omega), Nat.mod_eq_of_lt hmost, ofNat_eq byte hfirst]

theorem utf8EncodeChar_four (hfirst : n / 64 ^ 3 + 0xF0 = byte.toNat) (hmost : n / 64 ^ 3 ≤ 4)
    (hleast : n / 64 ^ 3 = 0 → 0x90 ≤ n / 64 ^ 2 % 64 + 0x80)
    (hlast : n / 64 ^ 3 = 4 → n / 64 ^ 2 % 64 + 0x80 ≤ 0x8F) :
    String.utf8EncodeChar (Char.ofNat n) = byte :: lastBytes n 3 := by
  have hvalid : n.isValidChar := by
    unfold Nat.isValidChar
    omega
  rw [utf8EncodeChar_ofNat hvalid, spelled, if_neg (by omega), if_neg (by omega),
    if_neg (by omega), Nat.mod_eq_of_lt (by omega), ofNat_eq byte hfirst]

theorem lead_one (h : byte.toNat < 0x80) : lead byte = .whole (some (Char.ofNat byte.toNat)) := by
  rw [lead, if_pos h]

theorem lead_none (h : 0x80 ≤ byte.toNat) (hnone : byte.toNat < 0xC2 ∨ 0xF4 < byte.toNat) :
    lead byte = .whole none := by
  rw [lead, if_neg (by omega)]
  rcases hnone with hless | hmore
  · rw [if_pos hless]
  · rw [if_neg (by omega), if_neg (by omega), if_neg (by omega), if_neg (by omega),
      if_neg (by omega), if_neg (by omega), if_neg (by omega), if_neg (by omega)]

theorem lead_two (h : byte.toNat = n + 0xC0) (hleast : 2 ≤ n) (hmost : n < 0x20) :
    lead byte = .begun ⟨n, 1, 0x80, 0xBF⟩ := by
  rw [lead, if_neg (by omega), if_neg (by omega), if_pos (by omega), h, Nat.add_sub_cancel]

theorem lead_three (h : byte.toNat = n + 0xE0) (hmost : n < 0x10) :
    lead byte =
      .begun ⟨n, 2, if n = 0 then 0xA0 else 0x80, if n = 0xD then 0x9F else 0xBF⟩ := by
  by_cases hzero : n = 0
  · subst hzero
    simp [lead, h]
  by_cases hsurrogate : n = 0xD
  · subst hsurrogate
    simp [lead, h]
  rw [if_neg hzero, if_neg hsurrogate, lead, if_neg (by omega), if_neg (by omega),
    if_neg (by omega), if_neg (by omega), if_neg (by omega), if_pos (by omega), h,
    Nat.add_sub_cancel]

theorem lead_four (h : byte.toNat = n + 0xF0) (hmost : n ≤ 4) :
    lead byte = .begun ⟨n, 3, if n = 0 then 0x90 else 0x80, if n = 4 then 0x8F else 0xBF⟩ := by
  by_cases hzero : n = 0
  · subst hzero
    simp [lead, h]
  by_cases hlast : n = 4
  · subst hlast
    simp [lead, h]
  rw [if_neg hzero, if_neg hlast, lead, if_neg (by omega), if_neg (by omega), if_neg (by omega),
    if_neg (by omega), if_neg (by omega), if_neg (by omega), if_neg (by omega), if_pos (by omega),
    h, Nat.add_sub_cancel]

structure Begins (byte : UInt8) (p : Pending) (missing first last : Nat) : Prop where
  missing : p.missing = missing
  bits : p.bits + first = byte.toNat
  last : byte.toNat ≤ last
  low : 0x80 ≤ p.low
  high : p.high ≤ 0xBF

theorem begins_of_lead (h : lead byte = .begun p) :
    (Begins byte p 1 0xC0 0xDF ∧ 2 ≤ p.bits) ∨
      (Begins byte p 2 0xE0 0xEF ∧ (p.bits = 0 → 0xA0 ≤ p.low) ∧ (p.bits = 0xD → p.high ≤ 0x9F)) ∨
      (Begins byte p 3 0xF0 0xF4 ∧ (p.bits = 0 → 0x90 ≤ p.low) ∧ (p.bits = 4 → p.high ≤ 0x8F)) := by
  by_cases hone : byte.toNat < 0x80
  · rw [lead_one hone] at h
    cases h
  by_cases hnone : byte.toNat < 0xC2 ∨ 0xF4 < byte.toNat
  · rw [lead_none (by omega) hnone] at h
    cases h
  by_cases htwo : byte.toNat < 0xE0
  · obtain ⟨n, hn⟩ := Nat.exists_eq_add_of_le' (show 0xC0 ≤ byte.toNat by omega)
    rw [lead_two hn (by omega) (by omega), Lead.begun.injEq] at h
    subst h
    exact .inl ⟨⟨rfl, hn.symm, by omega, Nat.le_refl _, Nat.le_refl _⟩, by simp only; omega⟩
  by_cases hthree : byte.toNat < 0xF0
  · obtain ⟨n, hn⟩ := Nat.exists_eq_add_of_le' (show 0xE0 ≤ byte.toNat by omega)
    rw [lead_three hn (by omega), Lead.begun.injEq] at h
    subst h
    refine .inr (.inl ⟨⟨rfl, hn.symm, by omega, ?_, ?_⟩, ?_, ?_⟩)
    · simp only
      split <;> omega
    · simp only
      split <;> omega
    · exact fun hzero => Nat.le_of_eq (if_pos hzero).symm
    · exact fun hsurrogate => Nat.le_of_eq (if_pos hsurrogate)
  · obtain ⟨n, hn⟩ := Nat.exists_eq_add_of_le' (show 0xF0 ≤ byte.toNat by omega)
    rw [lead_four hn (by omega), Lead.begun.injEq] at h
    subst h
    refine .inr (.inr ⟨⟨rfl, hn.symm, by omega, ?_, ?_⟩, ?_, ?_⟩)
    · simp only
      split <;> omega
    · simp only
      split <;> omega
    · exact fun hzero => Nat.le_of_eq (if_pos hzero).symm
    · exact fun hlast => Nat.le_of_eq (if_pos hlast)

theorem whole_of_lead (h : lead byte = .whole (some c)) :
    byte.toNat < 0x80 ∧ c = Char.ofNat byte.toNat := by
  by_cases hone : byte.toNat < 0x80
  · rw [lead_one hone, Lead.whole.injEq, Option.some.injEq] at h
    exact ⟨hone, h.symm⟩
  · rw [lead, if_neg hone] at h
    grind

def IsTail (byte : UInt8) : Prop := 0x80 ≤ byte.toNat ∧ byte.toNat ≤ 0xBF

theorem accepts_iff : p.accepts byte = true ↔ p.low ≤ byte.toNat ∧ byte.toNat ≤ p.high := by
  rw [Pending.accepts, Bool.and_eq_true, decide_eq_true_eq, decide_eq_true_eq]

theorem isTail_of_accepts (hlow : 0x80 ≤ p.low) (hhigh : p.high ≤ 0xBF)
    (h : p.accepts byte = true) : IsTail byte :=
  ⟨Nat.le_trans hlow (accepts_iff.mp h).1, Nat.le_trans (accepts_iff.mp h).2 hhigh⟩

theorem push_eq (p : Pending) (byte : UInt8) :
    p.push byte = ⟨p.bits * 64 + (byte.toNat - 0x80), p.missing - 1, 0x80, 0xBF⟩ := rfl

theorem bits_of_push (h : IsTail byte) (hn : n / 64 ^ k = (p.push byte).bits) :
    n / 64 ^ (k + 1) = p.bits ∧ n / 64 ^ k % 64 + 0x80 = byte.toNat := by
  unfold IsTail at h
  rw [div_div_pow, hn, push_eq]
  simp only
  omega

theorem of_unitsFrom_eq_cons (h : unitsFrom (some p) bytes = some c :: us) :
    ∃ byte rest, bytes = byte :: rest ∧ p.accepts byte = true ∧
      if p.missing = 1 then c = Char.ofNat (p.push byte).bits ∧ us = units rest
      else unitsFrom (some (p.push byte)) rest = some c :: us := by
  cases bytes with
  | nil => simp [unitsFrom] at h
  | cons byte rest =>
      simp only [unitsFrom] at h
      split at h
      · rename_i haccepts
        refine ⟨byte, rest, rfl, haccepts, ?_⟩
        split at h
        · rename_i hlast
          rw [List.cons.injEq, Option.some.injEq] at h
          rw [if_pos hlast]
          exact ⟨h.1.symm, h.2.symm⟩
        · rename_i hmore
          rw [if_neg hmore, h]
      · simp at h

theorem exists_lastBytes_of_unitsFrom (hmissing : p.missing = k + 1) (hlow : 0x80 ≤ p.low)
    (hhigh : p.high ≤ 0xBF) (h : unitsFrom (some p) bytes = some c :: us) :
    ∃ n rest, bytes = lastBytes n (k + 1) ++ rest ∧ c = Char.ofNat n ∧ us = units rest ∧
      n / 64 ^ (k + 1) = p.bits ∧ p.low ≤ n / 64 ^ k % 64 + 0x80 ∧
      n / 64 ^ k % 64 + 0x80 ≤ p.high := by
  induction k generalizing p bytes with
  | zero =>
      obtain ⟨byte, rest, rfl, haccepts, hread⟩ := of_unitsFrom_eq_cons h
      rw [if_pos hmissing] at hread
      have hn : (p.push byte).bits / 64 ^ 0 = (p.push byte).bits := Nat.div_one _
      obtain ⟨hbits, hbyte⟩ := bits_of_push (isTail_of_accepts hlow hhigh haccepts) hn
      refine ⟨(p.push byte).bits, rest, ?_, hread.1, hread.2, hbits, ?_⟩
      · rw [lastBytes_succ hbyte]
        rfl
      · rw [hbyte]
        exact accepts_iff.mp haccepts
  | succ k ih =>
      obtain ⟨byte, rest, rfl, haccepts, hread⟩ := of_unitsFrom_eq_cons h
      rw [if_neg (by omega)] at hread
      have hmore : (p.push byte).missing = k + 1 := by
        rw [push_eq, hmissing, Nat.add_sub_cancel]
      obtain ⟨n, after, rfl, hc, hus, hn, -⟩ := ih hmore (Nat.le_refl _) (Nat.le_refl _) hread
      obtain ⟨hbits, hbyte⟩ := bits_of_push (isTail_of_accepts hlow hhigh haccepts) hn
      refine ⟨n, after, ?_, hc, hus, hbits, ?_⟩
      · rw [lastBytes_succ hbyte]
        rfl
      · rw [hbyte]
        exact accepts_iff.mp haccepts

theorem of_units_eq_cons (h : units bytes = some c :: us) :
    ∃ rest, bytes = String.utf8EncodeChar c ++ rest ∧ us = units rest := by
  cases bytes with
  | nil => cases h
  | cons byte bytes =>
      rw [units, unitsFrom] at h
      cases hlead : lead byte with
      | whole unit =>
          rw [hlead] at h
          simp only [List.cons.injEq] at h
          obtain ⟨rfl, hus⟩ := h
          obtain ⟨hbyte, hc⟩ := whole_of_lead hlead
          exact ⟨bytes, by rw [hc, utf8EncodeChar_one hbyte, List.singleton_append], hus.symm⟩
      | begun p =>
          rw [hlead] at h
          rcases begins_of_lead hlead with ⟨hb, hleast⟩ | ⟨hb, hleast, hmost⟩ | ⟨hb, hleast, hmost⟩
          all_goals
            obtain ⟨n, rest, rfl, rfl, hus, hbits, hlow, hhigh⟩ :=
              exists_lastBytes_of_unitsFrom hb.missing hb.low hb.high h
            have hfirst := hb.bits
            have hlast := hb.last
            rw [← hbits] at hfirst hleast
            refine ⟨rest, ?_, hus⟩
          · rw [utf8EncodeChar_two hfirst hleast (by omega)]
            rfl
          · rw [← hbits] at hmost
            rw [utf8EncodeChar_three hfirst (by omega) (fun h => Nat.le_trans (hleast h) hlow)
              (fun h => Nat.le_trans hhigh (hmost h))]
            rfl
          · rw [← hbits] at hmost
            rw [utf8EncodeChar_four hfirst (by omega) (fun h => Nat.le_trans (hleast h) hlow)
              (fun h => Nat.le_trans hhigh (hmost h))]
            rfl

theorem of_unitsFrom_eq_none (h : unitsFrom (some p) bytes = none :: us) :
    ∃ rest, rest <:+ bytes ∧ us = units rest := by
  induction bytes generalizing p with
  | nil =>
      rw [unitsFrom, List.cons.injEq] at h
      exact ⟨[], List.suffix_rfl, h.2.symm⟩
  | cons byte bytes ih =>
      simp only [unitsFrom] at h
      split at h
      · split at h
        · cases h
        · obtain ⟨rest, hrest, hus⟩ := ih h
          exact ⟨rest, hrest.trans (List.suffix_cons byte bytes), hus⟩
      · rw [List.cons.injEq] at h
        exact ⟨byte :: bytes, List.suffix_rfl, h.2.symm⟩

theorem of_units_eq_none (h : units bytes = none :: us) :
    ∃ rest, rest <:+ bytes ∧ us = units rest := by
  cases bytes with
  | nil => cases h
  | cons byte bytes =>
      rw [units, unitsFrom] at h
      cases hlead : lead byte with
      | whole unit =>
          rw [hlead] at h
          simp only [List.cons.injEq] at h
          exact ⟨bytes, List.suffix_cons byte bytes, h.2.symm⟩
      | begun p =>
          rw [hlead] at h
          obtain ⟨rest, hrest, hus⟩ := of_unitsFrom_eq_none h
          exact ⟨rest, hrest.trans (List.suffix_cons byte bytes), hus⟩

theorem infix_of_mem_units (h : some c ∈ units bytes) : String.utf8EncodeChar c <:+: bytes := by
  generalize hus : units bytes = us at h
  induction us generalizing bytes with
  | nil => cases h
  | cons u us ih =>
      rcases List.mem_cons.mp h with rfl | hmem
      · obtain ⟨rest, rfl, -⟩ := of_units_eq_cons hus
        exact (List.prefix_append _ rest).isInfix
      · cases u with
        | none =>
            obtain ⟨rest, hrest, rfl⟩ := of_units_eq_none hus
            exact (ih rfl hmem).trans hrest.isInfix
        | some d =>
            obtain ⟨rest, rfl, rfl⟩ := of_units_eq_cons hus
            exact (ih rfl hmem).trans (List.suffix_append _ rest).isInfix

end Spelling

section Order

variable {m n k range base : Nat} {xs ys : List UInt8} {c d : Char} {cs ds : List Char}

theorem cons_lt_cons (hn : n < 256) (h : m < n ∨ (m = n ∧ xs < ys)) :
    UInt8.ofNat m :: xs < UInt8.ofNat n :: ys := by
  rw [List.cons_lt_cons_iff]
  rcases h with h | ⟨rfl, h⟩
  · left
    rw [UInt8.lt_iff_toNat_lt, UInt8.toNat_ofNat', UInt8.toNat_ofNat']
    omega
  · exact .inr ⟨rfl, h⟩

theorem lastBytes_append_lt (h : m < n) (hk : m / 64 ^ k = n / 64 ^ k) :
    lastBytes m k ++ xs < lastBytes n k ++ ys := by
  induction k with
  | zero =>
      rw [Nat.pow_zero, Nat.div_one, Nat.div_one] at hk
      exact absurd hk (Nat.ne_of_lt h)
  | succ k ih =>
      rw [div_div_pow, div_div_pow] at hk
      have hle : m / 64 ^ k ≤ n / 64 ^ k := Nat.div_le_div_right (Nat.le_of_lt h)
      rw [lastBytes, lastBytes, List.cons_append, List.cons_append]
      rcases Nat.lt_or_eq_of_le hle with hlt | heq
      · exact cons_lt_cons (by omega) (.inl (by omega))
      · exact cons_lt_cons (by omega) (.inr ⟨by rw [heq], ih heq⟩)

theorem firstByte_append_lt (h : m < n) (hn : n / 64 ^ k < range) (hrange : range + base ≤ 256) :
    UInt8.ofNat (m / 64 ^ k % range + base) :: (lastBytes m k ++ xs) <
      UInt8.ofNat (n / 64 ^ k % range + base) :: (lastBytes n k ++ ys) := by
  have hle : m / 64 ^ k ≤ n / 64 ^ k := Nat.div_le_div_right (Nat.le_of_lt h)
  rw [Nat.mod_eq_of_lt hn, Nat.mod_eq_of_lt (Nat.lt_of_le_of_lt hle hn)]
  rcases Nat.lt_or_eq_of_le hle with hlt | heq
  · exact cons_lt_cons (by omega) (.inl (by omega))
  · exact cons_lt_cons (by omega) (.inr ⟨by rw [heq], lastBytes_append_lt h heq⟩)

theorem spelled_append_lt (h : m < n) (hn : n < 0x110000) : spelled m ++ xs < spelled n ++ ys := by
  rw [spelled, spelled]
  by_cases hn₁ : n ≤ 0x7F
  · rw [if_pos (by omega), if_pos hn₁]
    exact cons_lt_cons (by omega) (.inl h)
  rw [if_neg hn₁]
  by_cases hm₁ : m ≤ 0x7F
  · rw [if_pos hm₁]
    split
    · exact cons_lt_cons (by omega) (.inl (by omega))
    · split <;> exact cons_lt_cons (by omega) (.inl (by omega))
  rw [if_neg hm₁]
  by_cases hn₂ : n ≤ 0x7FF
  · rw [if_pos (by omega), if_pos hn₂]
    exact firstByte_append_lt h (by omega) (by omega)
  rw [if_neg hn₂]
  by_cases hm₂ : m ≤ 0x7FF
  · rw [if_pos hm₂]
    split <;> exact cons_lt_cons (by omega) (.inl (by omega))
  rw [if_neg hm₂]
  by_cases hn₃ : n ≤ 0xFFFF
  · rw [if_pos (by omega), if_pos hn₃]
    exact firstByte_append_lt h (by omega) (by omega)
  rw [if_neg hn₃]
  by_cases hm₃ : m ≤ 0xFFFF
  · rw [if_pos hm₃]
    exact cons_lt_cons (by omega) (.inl (by omega))
  · rw [if_neg hm₃]
    exact firstByte_append_lt h (by omega) (by omega)

theorem val_toNat_lt (c : Char) : c.val.toNat < 0x110000 := by
  have hvalid := c.valid
  unfold UInt32.isValidChar Nat.isValidChar at hvalid
  omega

theorem utf8EncodeChar_append_lt (h : c < d) :
    String.utf8EncodeChar c ++ xs < String.utf8EncodeChar d ++ ys := by
  rw [utf8EncodeChar_eq_spelled, utf8EncodeChar_eq_spelled]
  exact spelled_append_lt h (val_toNat_lt d)

theorem encode_lt_encode (h : cs < ds) : encode cs < encode ds := by
  induction cs generalizing ds with
  | nil =>
      cases ds with
      | nil => exact absurd h (List.lt_irrefl _)
      | cons d ds =>
          rw [encode, encode, List.flatMap_nil, List.flatMap_cons]
          cases hd : String.utf8EncodeChar d with
          | nil => exact absurd hd String.utf8EncodeChar_ne_nil
          | cons byte bytes => exact List.nil_lt_cons _ _
  | cons c cs ih =>
      cases ds with
      | nil => exact absurd h (List.not_lt_nil _)
      | cons d ds =>
          rw [encode, encode, List.flatMap_cons, List.flatMap_cons]
          rcases List.cons_lt_cons_iff.mp h with hlt | ⟨rfl, hlt⟩
          · exact utf8EncodeChar_append_lt hlt
          · exact List.append_left_lt (ih hlt)

theorem encode_injective : Function.Injective encode := by
  intro cs ds h
  have hbytes : cs.utf8Encode = ds.utf8Encode := congrArg List.toByteArray h
  have hread := congrArg ByteArray.utf8Decode? hbytes
  rw [List.utf8Decode?_utf8Encode, List.utf8Decode?_utf8Encode, Option.some.injEq] at hread
  exact congrArg Array.toList hread

theorem ofString_injective : Function.Injective ofString := fun _ _ h =>
  String.toList_injective (encode_injective h)

theorem ofString_lt_ofString {s t : String} (h : s < t) : ofString s < ofString t :=
  encode_lt_encode h

end Order

end EntityGraph.Utf8
