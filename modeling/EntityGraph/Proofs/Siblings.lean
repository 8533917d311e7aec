import EntityGraph.FileTree.Replace
import EntityGraph.Proofs.Ways

namespace EntityGraph

namespace Path

variable {p : Path} {n s : Name}

theorem body_eq (pieces : List Name) :
    body pieces = ((pieces.filter (!·.isEmpty)).filter (· ≠ [dot])).map partOfPiece := by
  rw [body, List.filter_filter]
  congr 1
  refine List.filter_congr ?_
  intro piece _
  by_cases hpiece : piece = [dot] <;> simp [isIdle, hpiece]

theorem exists_components_eq (p : Path) :
    ∃ lead : List PathPart, (∀ part ∈ lead, part = .root ∨ part = .here) ∧
      p.components = lead ++ (p.steps.filter (· ≠ [dot])).map partOfPiece := by
  unfold components steps
  split
  · rename_i hempty
    have hpieces : p.pieces = [[]] := by rw [pieces, List.isEmpty_iff.mp hempty]; rfl
    exact ⟨[], by simp, by rw [hpieces]; rfl⟩
  · split
    · rename_i hpieces
      exact ⟨[], by simp, by rw [hpieces]; rfl⟩
    · rename_i first rest hpieces
      rw [hpieces]
      split
      · rename_i hfirst
        rw [List.isEmpty_iff] at hfirst
        exact ⟨[.root], by simp, by rw [body_eq, hfirst]; rfl⟩
      · split
        · rename_i hfirst
          exact ⟨[.here], by simp, by rw [body_eq, hfirst]; rfl⟩
        · exact ⟨[], by simp, by rw [body_eq]; rfl⟩

theorem fileName?_eq (p : Path) :
    p.fileName? = (p.steps.filter (· ≠ [dot])).getLast?.bind fun s =>
      if s = [dot, dot] then none else some s := by
  obtain ⟨lead, hlead, hcomponents⟩ := exists_components_eq p
  rw [fileName?, hcomponents]
  rcases List.eq_nil_or_concat' (p.steps.filter (· ≠ [dot])) with hnil | ⟨init, s, hlast⟩
  · rw [hnil, List.map_nil, List.append_nil]
    cases hl : lead.getLast? with
    | none => rfl
    | some part => rcases hlead part (List.mem_of_getLast? hl) with rfl | rfl <;> rfl
  · rw [hlast, List.map_append, ← List.append_assoc, List.map_singleton, List.getLast?_concat,
      List.getLast?_concat, partOfPiece]
    by_cases hs : s = [dot, dot] <;> simp [hs]

theorem fileName?_of_getLast? (h : p.steps.getLast? = some s) (hdot : s ≠ [dot])
    (hup : s ≠ [dot, dot]) : p.fileName? = some s := by
  obtain ⟨init, hsteps⟩ := List.getLast?_eq_some_iff.mp h
  rw [fileName?_eq, hsteps, List.filter_append]
  simp [hdot, hup]

theorem slash_notMem_of_mem_steps (h : s ∈ p.steps) : slash ∉ s :=
  Text.not_mem_of_mem_splitOn (List.mem_filter.mp h).1

theorem mem_steps_of_fileName? (h : p.fileName? = some n) : n ∈ p.steps := by
  rw [fileName?_eq, Option.bind_eq_some_iff] at h
  obtain ⟨s, hs, hn⟩ := h
  split at hn
  · cases hn
  · cases hn
    exact (List.mem_filter.mp (List.mem_of_getLast? hs)).1

theorem exists_bytes_joinName (hslash : slash ∉ n) (p : Path) :
    (p.joinName n).bytes = n ∨ ∃ above, (p.joinName n).bytes = above ++ slash :: n := by
  have hrelative : (⟨n⟩ : Path).isAbsolute = false := by
    cases n with
    | nil => rfl
    | cons b n =>
        have hb : b ≠ slash := fun h => hslash (by simp [h])
        simpa [isAbsolute] using hb
  rw [joinName, join, hrelative]
  cases hlast : p.bytes.getLast? with
  | none => exact .inl rfl
  | some last =>
      by_cases h : last = slash
      · obtain ⟨above, habove⟩ := List.getLast?_eq_some_iff.mp hlast
        exact .inr ⟨above, by simp [habove, h]⟩
      · exact .inr ⟨p.bytes, by simp [h]⟩

theorem getLast?_steps_joinName (hne : n ≠ []) (hslash : slash ∉ n) (p : Path) :
    (p.joinName n).steps.getLast? = some n := by
  rcases exists_bytes_joinName hslash p with hbytes | ⟨above, hbytes⟩
  · rw [steps, pieces, hbytes, Text.splitOn_of_notMem hslash]
    simp [hne]
  · rw [steps, pieces, hbytes, Text.splitOn_append, Text.splitOn_of_notMem hslash]
    simp [hne]

theorem endsInSlash_joinName_of_notMem (hne : n ≠ []) (hslash : slash ∉ n) (p : Path) :
    (p.joinName n).endsInSlash = false := by
  have hlast : n.getLast hne ≠ slash := fun h => hslash (h ▸ List.getLast_mem hne)
  have hends : n.getLast? = some (n.getLast hne) := List.getLast?_eq_some_getLast hne
  rcases exists_bytes_joinName hslash p with hbytes | ⟨above, hbytes⟩
  · simp [endsInSlash, hbytes, hends, hlast]
  · simp [endsInSlash, hbytes, List.getLast?_append, List.getLast?_cons, hends, hlast]

end Path

namespace FileTree

open EntityGraph.Path

variable {t : FileTree} {p : Path}

def temporaryName (p : Path) : Name :=
  (p.fileName?).getD [] ++ temporaryEnding

theorem exists_temporarySibling_eq (p : Path) :
    ∃ above : Path, temporarySibling p = above.joinName (temporaryName p) := by
  unfold temporarySibling withFileName
  split
  · exact ⟨p, rfl⟩
  · exact ⟨_, rfl⟩

theorem slash_notMem_temporaryName (p : Path) : slash ∉ temporaryName p := by
  have hending : slash ∉ temporaryEnding := by decide
  rw [temporaryName, List.mem_append, not_or]
  refine ⟨?_, hending⟩
  cases hname : p.fileName? with
  | none => exact List.not_mem_nil
  | some n => exact slash_notMem_of_mem_steps (mem_steps_of_fileName? hname)

theorem four_le_length_temporaryName (p : Path) : 4 ≤ (temporaryName p).length := by
  rw [temporaryName, List.length_append]
  exact Nat.le_add_left 4 _

theorem temporaryName_ne {n : Name} (h : n.length < 4) (p : Path) : temporaryName p ≠ n := by
  intro heq
  have hlength := four_le_length_temporaryName p
  rw [heq] at hlength
  omega

theorem getLast?_steps_temporarySibling (p : Path) :
    (temporarySibling p).steps.getLast? = some (temporaryName p) := by
  obtain ⟨above, habove⟩ := exists_temporarySibling_eq p
  rw [habove]
  exact getLast?_steps_joinName (temporaryName_ne (by decide) p) (slash_notMem_temporaryName p)
    above

theorem steps_temporarySibling_ne_nil (p : Path) : (temporarySibling p).steps ≠ [] := by
  intro hnil
  have hlast := getLast?_steps_temporarySibling p
  rw [hnil] at hlast
  cases hlast

theorem endsInSlash_temporarySibling (p : Path) : (temporarySibling p).endsInSlash = false := by
  obtain ⟨above, habove⟩ := exists_temporarySibling_eq p
  rw [habove]
  exact endsInSlash_joinName_of_notMem (temporaryName_ne (by decide) p)
    (slash_notMem_temporaryName p) above

theorem endsInDot_eq_false : endsInDot p = false ↔
    ∃ s, p.steps.getLast? = some s ∧ s ≠ [dot] ∧ s ≠ [dot, dot] := by
  unfold endsInDot
  cases p.steps.getLast? <;> simp

theorem endsInDot_temporarySibling (p : Path) : endsInDot (temporarySibling p) = false :=
  endsInDot_eq_false.mpr ⟨_, getLast?_steps_temporarySibling p, temporaryName_ne (by decide) p,
    temporaryName_ne (by decide) p⟩

theorem of_way? {w : Way} (h : t.way? p = some w) :
    0 ∉ p.bytes ∧ endsInDot p = false ∧ way t linkLimit (startOf t.working p) p.steps = some w := by
  unfold way? at h
  grind

theorem exists_place_eq_cons {w : Way} (h : t.way? p = some w) :
    ∃ n above, p.fileName? = some n ∧ p.steps.getLast? = some n ∧ w.place = n :: above := by
  obtain ⟨-, hdot, hway⟩ := of_way? h
  obtain ⟨s, hlast, hs, hs'⟩ := endsInDot_eq_false.mp hdot
  obtain ⟨init, hsteps⟩ := List.getLast?_eq_some_iff.mp hlast
  rw [hsteps] at hway
  obtain ⟨above, habove⟩ := head_of_way hs hs' _ _ hway
  exact ⟨s, above, fileName?_of_getLast? hlast hs hs', hlast, habove⟩

theorem place_ne_sibling {w v : Way} (hw : t.way? p = some w)
    (hv : t.way? (temporarySibling p) = some v) : w.place ≠ v.place := by
  obtain ⟨n, above, hname, -, habove⟩ := exists_place_eq_cons hw
  obtain ⟨m, there, -, hlast, hthere⟩ := exists_place_eq_cons hv
  rw [getLast?_steps_temporarySibling p, temporaryName, hname, Option.some.injEq] at hlast
  rw [habove, hthere, ← hlast]
  intro heq
  have hending : temporaryEnding ≠ [] := by decide
  exact hending (List.self_eq_append_right.mp (List.cons.inj heq).1)

end FileTree

end EntityGraph
