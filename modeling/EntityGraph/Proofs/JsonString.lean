import EntityGraph.Json.Reader

namespace EntityGraph.Json

theorem hexValue4?_hexDigit :
    ∀ n < 0x20, hexValue4? '0' '0' (hexDigit (n / 16)) (hexDigit (n % 16)) = some n := by
  decide

theorem escapeChar_cases (c : Char) :
    (∃ e, escapeChar c = ['\\', e] ∧ shortEscape? e = some c) ∨
      (∃ x y, escapeChar c = ['\\', 'u', '0', '0', x, y] ∧
        hexValue4? '0' '0' x y = some c.toNat ∧ c.toNat < 0x20) ∨
      (escapeChar c = [c] ∧ c ≠ '"' ∧ c ≠ '\\' ∧ 0x20 ≤ c.toNat) := by
  by_cases hshort : c = '"' ∨ c = '\\' ∨ c = '\x08' ∨ c = '\x0c' ∨ c = '\n' ∨ c = '\r' ∨ c = '\t'
  · left
    rcases hshort with rfl | rfl | rfl | rfl | rfl | rfl | rfl <;> exact ⟨_, rfl, rfl⟩
  · right
    simp only [not_or] at hshort
    obtain ⟨h1, h2, h3, h4, h5, h6, h7⟩ := hshort
    by_cases hlow : c.toNat < 0x20
    · left
      refine ⟨hexDigit (c.toNat / 16), hexDigit (c.toNat % 16), ?_, ?_, hlow⟩
      · simp [escapeChar, h1, h2, h3, h4, h5, h6, h7, hlow]
      · exact hexValue4?_hexDigit c.toNat hlow
    · right
      refine ⟨?_, h1, h2, Nat.le_of_not_lt hlow⟩
      simp [escapeChar, h1, h2, h3, h4, h5, h6, h7, hlow]

theorem ne_u_of_shortEscape? {e c : Char} (h : shortEscape? e = some c) : e ≠ 'u' := by
  rintro rfl
  cases h

theorem unescape_short {e c : Char} (h : shortEscape? e = some c) (rest : List Char) :
    unescape ('\\' :: e :: rest) = (unescape rest).map (c :: ·) := by
  have hu := ne_u_of_shortEscape? h
  rw [unescape, h]
  · intro _ _ _ _ _ _ _ _ _ he
    exact absurd he hu
  · intro _ _ _ _ _ he
    exact absurd he hu

theorem unescape_plain {c : Char} (h : c ≠ '\\') (rest : List Char) :
    unescape (c :: rest) = (unescape rest).map (c :: ·) := by
  rw [unescape]
  · intro _ _ _ _ _ _ _ _ _ hc
    exact absurd hc h
  · intro _ _ _ _ _ hc
    exact absurd hc h
  · intro _ _ hc
    exact absurd hc h

theorem unescape_number_none {a b c d : Char} (h : hexValue4? a b c d = none) (rest : List Char) :
    unescape ('\\' :: 'u' :: a :: b :: c :: d :: rest) = none := by
  by_cases hnext : ∃ e f g i more, rest = '\\' :: 'u' :: e :: f :: g :: i :: more
  · obtain ⟨e, f, g, i, more, rfl⟩ := hnext
    rw [unescape, h]
  · rw [unescape, h]
    intro e f g i more hrest
    exact hnext ⟨e, f, g, i, more, hrest⟩

theorem unescape_number {a b c d : Char} {n : Nat} (h : hexValue4? a b c d = some n) (hn : n < 0x20)
    (rest : List Char) :
    unescape ('\\' :: 'u' :: a :: b :: c :: d :: rest) =
      (unescape rest).map (Char.ofNat n :: ·) := by
  have hhigh : isHighSurrogate n = false := by
    simp only [isHighSurrogate, Bool.and_eq_false_iff, decide_eq_false_iff_not]
    omega
  have hlow : isLowSurrogate n = false := by
    simp only [isLowSurrogate, Bool.and_eq_false_iff, decide_eq_false_iff_not]
    omega
  by_cases hnext : ∃ e f g i more, rest = '\\' :: 'u' :: e :: f :: g :: i :: more
  · obtain ⟨e, f, g, i, more, rfl⟩ := hnext
    rw [unescape, h]
    cases hsecond : hexValue4? e f g i with
    | none => simp [unescape_number_none hsecond]
    | some m => simp [hhigh, hlow]
  · rw [unescape, h]
    · simp [hhigh, hlow]
    · intro e f g i more hrest
      exact hnext ⟨e, f, g, i, more, hrest⟩

theorem unescape_escapeChar (c : Char) (rest : List Char) :
    unescape (escapeChar c ++ rest) = (unescape rest).map (c :: ·) := by
  rcases escapeChar_cases c with ⟨e, hc, he⟩ | ⟨x, y, hc, hn, hlow⟩ | ⟨hc, -, hne, -⟩
  · rw [hc]
    exact unescape_short he rest
  · rw [hc]
    have hnumber := unescape_number hn hlow rest
    rwa [Char.ofNat_toNat] at hnumber
  · rw [hc]
    exact unescape_plain hne rest

theorem unescape_escape (cs : List Char) : unescape (escape cs) = some cs := by
  induction cs with
  | nil => rfl
  | cons c cs ih =>
      have hcons : escape (c :: cs) = escapeChar c ++ escape cs := rfl
      rw [hcons, unescape_escapeChar, ih]
      rfl

theorem quoted_escapeChar (c : Char) (rest : List Char) :
    quoted (escapeChar c ++ rest) = (quoted rest).map fun r => (escapeChar c ++ r.1, r.2) := by
  rcases escapeChar_cases c with ⟨e, hc, he⟩ | ⟨x, y, hc, hn, hlow⟩ | ⟨hc, hquote, hne, hlow⟩
  · rw [hc, List.cons_append, List.singleton_append, quoted, he]
    · rfl
    · intro _ _ _ _ _ hu
      exact absurd hu (ne_u_of_shortEscape? he)
  · rw [hc]
    simp only [List.cons_append, List.nil_append]
    rw [quoted, hn]
    rfl
  · rw [hc, List.singleton_append, quoted]
    · simp [hne]
      omega
    · exact hquote
    · intro _ _ _ _ _ hu
      exact absurd hu hne
    · intro _ _ hu
      exact absurd hu hne

theorem quoted_escape (cs rest : List Char) :
    quoted (escape cs ++ '"' :: rest) = some (escape cs, rest) := by
  induction cs with
  | nil => exact quoted.eq_2 rest
  | cons c cs ih =>
      have hcons : escape (c :: cs) = escapeChar c ++ escape cs := rfl
      rw [hcons, List.append_assoc, quoted_escapeChar, ih]
      rfl

theorem string?_escape (s : String) : string? (escape s.toList) = some s := by
  rw [string?, unescape_escape, Option.map_some, String.ofList_toList]

end EntityGraph.Json
