import EntityGraph.Proofs.Cuts
import EntityGraph.Proofs.Utf8

namespace EntityGraph

namespace Utf8

variable {n : Nat} {byte b : UInt8} {p : Pending} {c : Char} {cs : List Char}
  {bytes rest xs ys : List UInt8} {s : String}

section Ascii

theorem toNat_ofNat_of_lt (h : n < 256) : (UInt8.ofNat n).toNat = n := by
  rw [UInt8.toNat_ofNat', Nat.mod_eq_of_lt h]

theorem le_of_mem_lastBytes {k : Nat} (h : byte ∈ lastBytes n k) : 0x80 ≤ byte.toNat := by
  induction k with
  | zero => cases h
  | succ k ih =>
      rw [lastBytes, List.mem_cons] at h
      rcases h with rfl | h
      · rw [toNat_ofNat_of_lt (by omega)]
        omega
      · exact ih h

theorem le_of_mem_spelled (hn : 0x80 ≤ n) (h : byte ∈ spelled n) : 0x80 ≤ byte.toNat := by
  have hmore : ∀ {first k : Nat}, 0x80 ≤ first → first < 256 →
      byte ∈ UInt8.ofNat first :: lastBytes n k → 0x80 ≤ byte.toNat := by
    intro first k hfirst hlt hmem
    rcases List.mem_cons.mp hmem with rfl | hmem
    · rwa [toNat_ofNat_of_lt hlt]
    · exact le_of_mem_lastBytes hmem
  rw [spelled, if_neg (by omega)] at h
  split at h
  · exact hmore (by omega) (by omega) h
  · split at h <;> exact hmore (by omega) (by omega) h

theorem toNat_eq_of_mem_utf8EncodeChar (hbyte : byte.toNat < 0x80)
    (h : byte ∈ String.utf8EncodeChar c) : c.toNat = byte.toNat := by
  rw [utf8EncodeChar_eq_spelled] at h
  have hlt : c.val.toNat < 0x80 := by
    by_contra hle
    have hge := le_of_mem_spelled (Nat.le_of_not_lt hle) h
    omega
  rw [spelled, if_pos (by omega), List.mem_singleton] at h
  rw [h, toNat_ofNat_of_lt (by omega)]
  rfl

end Ascii

section Read

theorem accepts_last {k : Nat} (hlow : p.low ≤ n / 64 ^ k % 64 + 0x80)
    (hhigh : n / 64 ^ k % 64 + 0x80 ≤ p.high) :
    p.accepts (UInt8.ofNat (n / 64 ^ k % 64 + 0x80)) = true := by
  rw [accepts_iff, toNat_ofNat_of_lt (by omega)]
  exact ⟨hlow, hhigh⟩

theorem push_last (n k low high : Nat) :
    (⟨n / 64 ^ (k + 1), k + 1, low, high⟩ : Pending).push (UInt8.ofNat (n / 64 ^ k % 64 + 0x80)) =
      ⟨n / 64 ^ k, k, 0x80, 0xBF⟩ := by
  have hbyte : (UInt8.ofNat (n / 64 ^ k % 64 + 0x80)).toNat = n / 64 ^ k % 64 + 0x80 :=
    toNat_ofNat_of_lt (by omega)
  have hbits : n / 64 ^ (k + 1) * 64 + (n / 64 ^ k % 64 + 0x80 - 0x80) = n / 64 ^ k := by
    rw [div_div_pow]
    omega
  rw [push_eq, hbyte, hbits, Nat.add_sub_cancel]

theorem unitsFrom_lastBytes {k low high : Nat} (hlow : low ≤ n / 64 ^ k % 64 + 0x80)
    (hhigh : n / 64 ^ k % 64 + 0x80 ≤ high) (rest : List UInt8) :
    unitsFrom (some ⟨n / 64 ^ (k + 1), k + 1, low, high⟩) (lastBytes n (k + 1) ++ rest) =
      some (Char.ofNat n) :: units rest := by
  induction k generalizing low high with
  | zero =>
      rw [lastBytes, List.cons_append, unitsFrom, if_pos (accepts_last hlow hhigh), if_pos rfl,
        push_last, Nat.pow_zero, Nat.div_one]
      rfl
  | succ k ih =>
      rw [lastBytes, List.cons_append, unitsFrom, if_pos (accepts_last hlow hhigh),
        if_neg (by simp only; omega), push_last]
      exact ih (by omega) (by omega)

theorem units_spelled (hvalid : n.isValidChar) (rest : List UInt8) :
    units (spelled n ++ rest) = some (Char.ofNat n) :: units rest := by
  have hmost : n < 0x110000 ∧ ¬(0xD800 ≤ n ∧ n < 0xE000) := by
    unfold Nat.isValidChar at hvalid
    omega
  rw [spelled]
  by_cases h₁ : n ≤ 0x7F
  · have hbyte := toNat_ofNat_of_lt (n := n) (by omega)
    rw [if_pos h₁, List.singleton_append, units, unitsFrom, lead_one (by omega), hbyte]
    rfl
  rw [if_neg h₁]
  by_cases h₂ : n ≤ 0x7FF
  · have hbits : n / 64 ^ 1 % 0x20 = n / 64 ^ 1 := Nat.mod_eq_of_lt (by omega)
    have hbyte := toNat_ofNat_of_lt (n := n / 64 ^ 1 + 0xC0) (by omega)
    rw [if_pos h₂, hbits, List.cons_append, units, unitsFrom,
      lead_two hbyte (by omega) (by omega)]
    exact unitsFrom_lastBytes (by omega) (by omega) rest
  rw [if_neg h₂]
  by_cases h₃ : n ≤ 0xFFFF
  · have hbits : n / 64 ^ 2 % 0x10 = n / 64 ^ 2 := Nat.mod_eq_of_lt (by omega)
    have hbyte := toNat_ofNat_of_lt (n := n / 64 ^ 2 + 0xE0) (by omega)
    rw [if_pos h₃, hbits, List.cons_append, units, unitsFrom, lead_three hbyte (by omega)]
    exact unitsFrom_lastBytes (by split <;> omega) (by split <;> omega) rest
  · have hbits : n / 64 ^ 3 % 8 = n / 64 ^ 3 := Nat.mod_eq_of_lt (by omega)
    have hbyte := toNat_ofNat_of_lt (n := n / 64 ^ 3 + 0xF0) (by omega)
    rw [if_neg h₃, hbits, List.cons_append, units, unitsFrom, lead_four hbyte (by omega)]
    exact unitsFrom_lastBytes (by split <;> omega) (by split <;> omega) rest

theorem units_utf8EncodeChar_append (c : Char) (rest : List UInt8) :
    units (String.utf8EncodeChar c ++ rest) = some c :: units rest := by
  rw [utf8EncodeChar_eq_spelled, units_spelled c.valid]
  exact congrArg (some · :: units rest) (Char.ofNat_toNat c)

theorem units_encode (cs : List Char) : units (encode cs) = cs.map some := by
  induction cs with
  | nil => rfl
  | cons c cs ih =>
      rw [encode, List.flatMap_cons, units_utf8EncodeChar_append, List.map_cons, ← ih]
      rfl

theorem unitsFrom_pending_ne_nil (p : Pending) (bytes : List UInt8) :
    unitsFrom (some p) bytes ≠ [] := by
  induction bytes generalizing p with
  | nil => exact List.cons_ne_nil _ _
  | cons byte bytes ih =>
      rw [unitsFrom]
      split
      · split
        · exact List.cons_ne_nil _ _
        · exact ih (p.push byte)
      · exact List.cons_ne_nil _ _

theorem eq_nil_of_units (h : units bytes = []) : bytes = [] := by
  cases bytes with
  | nil => rfl
  | cons byte bytes =>
      rw [units, unitsFrom] at h
      split at h
      · cases h
      · exact absurd h (unitsFrom_pending_ne_nil _ bytes)

theorem eq_encode_of_units (h : units bytes = cs.map some) : bytes = encode cs := by
  induction cs generalizing bytes with
  | nil => exact eq_nil_of_units h
  | cons c cs ih =>
      obtain ⟨rest, rfl, hrest⟩ := of_units_eq_cons h
      rw [ih hrest.symm]
      rfl

theorem decode?_eq_some_iff : decode? bytes = some cs ↔ encode cs = bytes := by
  rw [decode?_eq_some]
  constructor
  · exact fun h => (eq_encode_of_units h).symm
  · rintro rfl
    exact units_encode cs

end Read

def IsText (bytes : List UInt8) : Prop := ∃ s : String, ofString s = bytes

theorem isText_iff : IsText bytes ↔ ∃ cs, encode cs = bytes := by
  constructor
  · rintro ⟨s, hs⟩
    exact ⟨s.toList, hs⟩
  · rintro ⟨cs, hcs⟩
    exact ⟨String.ofList cs, by rw [ofString, String.toList_ofList, hcs]⟩

section Cut

variable {separator : Char}

theorem encode_append (cs ds : List Char) : encode (cs ++ ds) = encode cs ++ encode ds :=
  List.flatMap_append

theorem IsText.append (hxs : IsText xs) (hys : IsText ys) : IsText (xs ++ ys) := by
  obtain ⟨cs, rfl⟩ := isText_iff.mp hxs
  obtain ⟨ds, rfl⟩ := isText_iff.mp hys
  exact isText_iff.mpr ⟨cs ++ ds, encode_append cs ds⟩

theorem isText_joinWith {parts : List (List UInt8)} (hxs : IsText xs)
    (hparts : ∀ part ∈ parts, IsText part) : IsText (Text.joinWith xs parts) := by
  fun_induction Text.joinWith xs parts with
  | case1 => exact isText_iff.mpr ⟨[], rfl⟩
  | case2 part => exact hparts part List.mem_cons_self
  | case3 part parts _ ih =>
      have hrest := ih fun q hq => hparts q (List.mem_cons_of_mem part hq)
      exact ((hparts part List.mem_cons_self).append hxs).append hrest

theorem utf8EncodeChar_of_ascii (h : separator.toNat < 0x80) :
    String.utf8EncodeChar separator = [UInt8.ofNat separator.toNat] := by
  rw [utf8EncodeChar_eq_spelled, spelled]
  exact if_pos (Nat.le_of_lt_succ h)

theorem splitOn_encode (h : separator.toNat < 0x80) (cs : List Char) :
    Text.splitOn (UInt8.ofNat separator.toNat) (encode cs) =
      (Text.splitOn separator cs).map encode := by
  induction cs with
  | nil => rfl
  | cons c cs ih =>
      have hcons : encode (c :: cs) = String.utf8EncodeChar c ++ encode cs := rfl
      rw [hcons, Text.splitOn]
      by_cases hc : c = separator
      · rw [if_pos hc, hc, utf8EncodeChar_of_ascii h, List.map_cons, ← ih]
        exact Text.splitOn_append [] (encode cs)
      · have hnot : UInt8.ofNat separator.toNat ∉ String.utf8EncodeChar c := by
          intro hmem
          have hbyte := toNat_ofNat_of_lt (n := separator.toNat) (by omega)
          have hval := toNat_eq_of_mem_utf8EncodeChar (by omega) hmem
          rw [hbyte] at hval
          exact hc (Char.toNat_inj.mp hval)
        rw [if_neg hc]
        cases hsplit : Text.splitOn separator cs with
        | nil => exact absurd hsplit (Text.splitOn_ne_nil separator cs)
        | cons part parts =>
            rw [hsplit, List.map_cons] at ih
            rw [Text.splitOn_append_of_notMem hnot ih]
            rfl

theorem isText_iff_splitOn (separator : Char) (h : separator.toNat < 0x80) : IsText bytes ↔
    ∀ part ∈ Text.splitOn (UInt8.ofNat separator.toNat) bytes, IsText part := by
  constructor
  · intro htext
    obtain ⟨cs, rfl⟩ := isText_iff.mp htext
    rw [splitOn_encode h]
    intro part hpart
    obtain ⟨ds, -, rfl⟩ := List.mem_map.mp hpart
    exact isText_iff.mpr ⟨ds, rfl⟩
  · intro hparts
    rw [← Text.joinWith_splitOn (UInt8.ofNat separator.toNat) bytes]
    have hseparator : IsText [UInt8.ofNat separator.toNat] :=
      isText_iff.mpr ⟨[separator], by rw [← utf8EncodeChar_of_ascii h]; exact List.append_nil _⟩
    exact isText_joinWith hseparator hparts

end Cut

end Utf8

end EntityGraph
