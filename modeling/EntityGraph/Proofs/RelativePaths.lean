import EntityGraph.Proofs.PathRemainder
import EntityGraph.Proofs.WrittenText

namespace EntityGraph

namespace Path

variable {p root : Path} {s : String}

theorem isText_bytes_iff : Utf8.IsText p.bytes ↔ ∀ m, .name m ∈ p.components → Utf8.IsText m := by
  have hcut : Utf8.IsText p.bytes ↔ ∀ piece ∈ p.pieces, Utf8.IsText piece :=
    Utf8.isText_iff_splitOn '/' (by decide)
  rw [hcut]
  constructor
  · exact fun h m hm => h m (mem_components_iff.mp hm).1
  · intro h piece hpiece
    by_cases hup : piece = [dot, dot]
    · exact ⟨"..", by rw [hup]; decide⟩
    cases hidle : isIdle piece with
    | false => exact h piece (mem_components_iff.mpr ⟨hpiece, hidle, hup⟩)
    | true =>
        simp only [isIdle, Bool.or_eq_true, List.isEmpty_iff, beq_iff_eq] at hidle
        rcases hidle with rfl | rfl
        · exact ⟨"", rfl⟩
        · exact ⟨".", by decide⟩

theorem text?_eq_some_iff : p.text? = some s ↔ Utf8.ofString s = p.bytes := by
  rw [text?, Option.map_eq_some_iff]
  constructor
  · rintro ⟨cs, hcs, rfl⟩
    rw [Utf8.ofString, String.toList_ofList]
    exact Utf8.decode?_eq_some_iff.mp hcs
  · intro h
    exact ⟨s.toList, Utf8.decode?_eq_some_iff.mpr h, String.ofList_toList⟩

theorem relativeTo?_eq_some_iff {q : Path} : p.relativeTo? root = some q ↔
    root.components <+: p.components ∧ p.rest root.components.length = q := by
  rw [relativeTo?]
  split
  · rename_i h
    rw [List.isPrefixOf_iff_prefix] at h
    rw [Option.some.injEq, and_iff_right h]
  · rename_i h
    rw [List.isPrefixOf_iff_prefix] at h
    simp [h]

theorem relativeText_eq_ok_iff : p.relativeText root = .ok s ↔
    root.components <+: p.components ∧
      Utf8.ofString s = (p.rest root.components.length).bytes := by
  rw [relativeText]
  constructor
  · intro h
    split at h
    · cases h
    · rename_i q hq
      obtain ⟨hstart, rfl⟩ := relativeTo?_eq_some_iff.mp hq
      split at h
      · cases h
      · rename_i t ht
        cases h
        exact ⟨hstart, text?_eq_some_iff.mp ht⟩
  · rintro ⟨hstart, hs⟩
    rw [relativeTo?_eq_some_iff.mpr ⟨hstart, rfl⟩]
    simp only
    rw [text?_eq_some_iff.mpr hs]

structure SeenFrom (root p : Path) : Prop where
  ok : ∀ s, p.relativeText root = .ok s ↔
    root.components <+: p.components ∧
      Utf8.ofString s = (p.rest root.components.length).bytes
  succeeds : (∃ s, p.relativeText root = .ok s) ↔
    root.components <+: p.components ∧ Utf8.IsText (p.rest root.components.length).bytes
  textual : Utf8.IsText (p.rest root.components.length).bytes ↔
    ∀ n, .name n ∈ p.components.drop root.components.length → Utf8.IsText n
  slice : ∀ s, p.relativeText root = .ok s → Utf8.ofString s <:+: p.bytes
  left : ∀ s, p.relativeText root = .ok s →
    (ofString s).components = p.components.drop root.components.length
  joined : ∀ s, p.relativeText root = .ok s → (root.join (ofString s)).components = p.components
  shown : ∀ s, p.relativeText root = .ok s → p.displayBelow root = s
  lossy : (∀ s, p.relativeText root ≠ .ok s) →
    p.displayBelow root = backslashesToSlashes (Utf8.toStringLossy p.bytes)

theorem exists_relativeText_iff : (∃ s, p.relativeText root = .ok s) ↔
    root.components <+: p.components ∧ Utf8.IsText (p.rest root.components.length).bytes := by
  simp only [relativeText_eq_ok_iff, exists_and_left, Utf8.IsText]

theorem ofString_eq_rest (h : p.relativeText root = .ok s) :
    ofString s = p.rest root.components.length :=
  congrArg Path.mk (relativeText_eq_ok_iff.mp h).2

theorem infix_of_relativeText (h : p.relativeText root = .ok s) : Utf8.ofString s <:+: p.bytes := by
  rw [(relativeText_eq_ok_iff.mp h).2]
  exact p.infix_rest _

theorem displayBelow_of_ok (h : p.relativeText root = .ok s) : p.displayBelow root = s := by
  rw [displayBelow, h]

theorem displayBelow_of_error (h : ∀ s, p.relativeText root ≠ .ok s) :
    p.displayBelow root = backslashesToSlashes p.display := by
  rw [displayBelow]
  split
  · rename_i s hs
    exact absurd hs (h s)
  · rfl

theorem seenFrom (root p : Path) : SeenFrom root p where
  ok _ := relativeText_eq_ok_iff
  succeeds := exists_relativeText_iff
  textual := by rw [isText_bytes_iff, components_rest]
  slice _ := infix_of_relativeText
  left s h := by rw [ofString_eq_rest h, components_rest]
  joined s h := by
    rw [ofString_eq_rest h]
    exact components_join_rest (relativeText_eq_ok_iff.mp h).1
  shown _ := displayBelow_of_ok
  lossy := displayBelow_of_error

end Path

end EntityGraph
