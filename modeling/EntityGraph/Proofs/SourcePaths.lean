import EntityGraph.Proofs.PathBelow
import Mathlib.Data.List.TakeDrop

namespace EntityGraph

namespace PathPart

def bytes : PathPart → List UInt8
  | root => [Path.slash]
  | here => [Path.dot]
  | parent => [Path.dot, Path.dot]
  | name n => n

end PathPart

namespace Path

variable {p root : Path} {n : Name} {ending : List UInt8}

section Order

def Before (p q : Path) : Prop :=
  p.components.map PathPart.bytes < q.components.map PathPart.bytes

theorem Before.ne {q : Path} (h : Before p q) : p ≠ q := by
  rintro rfl
  exact List.lt_irrefl _ h

theorem under_append (root : Path) (xs ys : List Name) :
    root.under (xs ++ ys) = (root.under xs).under ys := by
  rw [under, under, under, List.foldl_append]

theorem before_under {m : Name} {xs ys : List Name} (hroot : root.isEmpty = false)
    (hxs : ∀ k ∈ n :: xs, isName k = true) (hys : ∀ k ∈ m :: ys, isName k = true) (h : n < m) :
    Before (root.under (n :: xs)) (root.under (m :: ys)) := by
  have hlt : (n :: xs).map (PathPart.bytes ∘ .name) < (m :: ys).map (PathPart.bytes ∘ .name) :=
    List.cons_lt_cons_iff.mpr (.inl h)
  rw [Before, components_under hroot hxs, components_under hroot hys, List.map_append,
    List.map_append, List.map_map, List.map_map]
  exact List.append_left_lt hlt

theorem under_injective {xs ys : List Name} (hroot : root.isEmpty = false)
    (hxs : ∀ k ∈ xs, isName k = true) (hys : ∀ k ∈ ys, isName k = true)
    (h : root.under xs = root.under ys) : xs = ys := by
  have hcomponents := congrArg components h
  rw [components_under hroot hxs, components_under hroot hys, List.append_cancel_left_eq]
    at hcomponents
  exact List.map_injective_iff.mpr (fun _ _ h => PathPart.name.inj h) hcomponents

end Order

section Extension

theorem exists_ending (h : dot ∈ n) : ∃ stem ending, n = stem ++ dot :: ending ∧ dot ∉ ending := by
  obtain ⟨xs, ys, hn, hxs⟩ := List.eq_append_cons_of_mem (List.mem_reverse.mpr h)
  refine ⟨ys.reverse, xs.reverse, ?_, by simpa using hxs⟩
  rw [← List.reverse_reverse n, hn]
  simp

theorem span_of_notMem {bs : List UInt8} (h : dot ∉ bs) (rest : List UInt8) :
    (bs ++ rest).span (· != dot) = (bs ++ (rest.span (· != dot)).1, (rest.span (· != dot)).2) := by
  have hall : ∀ b ∈ bs, (b != dot) = true := by
    intro b hb
    have hne : b ≠ dot := fun heq => h (heq ▸ hb)
    simpa using hne
  rw [List.span_eq_takeWhile_dropWhile, List.span_eq_takeWhile_dropWhile,
    List.takeWhile_append_of_pos hall, List.dropWhile_append_of_pos hall]

theorem extension?_of_notMem (h : p.fileName? = some n) (hdot : dot ∉ n) :
    p.extension? = none := by
  have hspan := span_of_notMem (mt List.mem_reverse.mp hdot) []
  rw [List.append_nil] at hspan
  rw [extension?, h]
  simp only [hspan]
  rfl

theorem extension?_of_dot {stem : List UInt8} (h : p.fileName? = some (stem ++ dot :: ending))
    (hdot : dot ∉ ending) : p.extension? = if stem.isEmpty then none else some ending := by
  have hspan := span_of_notMem (mt List.mem_reverse.mp hdot) (dot :: stem.reverse)
  have hreverse : (stem ++ dot :: ending).reverse = ending.reverse ++ dot :: stem.reverse := by simp
  rw [extension?, h]
  simp only [hreverse, hspan, List.span_eq_takeWhile_dropWhile]
  simp

/-- The name is a stem, a dot and the extension, whatever the case of its ASCII letters. Dots before
the extension that is asked for do not count. -/
def HasExtension (extension : String) (n : Name) : Prop :=
  ∃ stem ending cs, n = stem ++ dot :: ending ∧ stem ≠ [] ∧ dot ∉ ending ∧
    Utf8.decode? ending = some cs ∧
      cs.map Char.toLower = (extension.toList.dropWhile (· = '.')).map Char.toLower

theorem extension?_eq_some_iff (h : p.fileName? = some n) :
    p.extension? = some ending ↔ ∃ stem, n = stem ++ dot :: ending ∧ stem ≠ [] ∧ dot ∉ ending := by
  constructor
  · intro hending
    by_cases hdot : dot ∈ n
    · obtain ⟨stem, ending', rfl, hdot'⟩ := exists_ending hdot
      rw [extension?_of_dot h hdot'] at hending
      split at hending
      · cases hending
      · rename_i hstem
        cases hending
        exact ⟨stem, rfl, by simpa using hstem, hdot'⟩
    · rw [extension?_of_notMem h hdot] at hending
      cases hending
  · rintro ⟨stem, rfl, hstem, hdot⟩
    rw [extension?_of_dot h hdot, if_neg (by simpa using hstem)]

theorem isSourceFile_iff {extension : String} (h : p.fileName? = some n) :
    p.isSourceFile extension = true ↔ HasExtension extension n := by
  have hsource : p.isSourceFile extension = true ↔ ∃ ending cs, p.extension? = some ending ∧
      Utf8.decode? ending = some cs ∧
        cs.map Char.toLower = (extension.toList.dropWhile (· = '.')).map Char.toLower := by
    unfold isSourceFile
    cases p.extension? with
    | none => simp
    | some ending =>
        cases hcs : Utf8.decode? ending with
        | none => simp [hcs]
        | some cs => simp [hcs]
  rw [hsource]
  constructor
  · rintro ⟨ending, cs, hending, hcs, hsame⟩
    obtain ⟨stem, hn, hstem, hdot⟩ := (extension?_eq_some_iff h).mp hending
    exact ⟨stem, ending, cs, hn, hstem, hdot, hcs, hsame⟩
  · rintro ⟨stem, ending, cs, hn, hstem, hdot, hcs, hsame⟩
    exact ⟨ending, cs, (extension?_eq_some_iff h).mpr ⟨stem, hn, hstem, hdot⟩, hcs, hsame⟩

end Extension

end Path

end EntityGraph
