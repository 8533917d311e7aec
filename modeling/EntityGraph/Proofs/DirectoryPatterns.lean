import EntityGraph.IgnorePattern
import EntityGraph.Proofs.Cuts

namespace EntityGraph

namespace IgnorePattern

open Text

variable {line text : String} {segments : List String} {path : Path}

structure IsDirectoryLine (line : String) (segments : List String) : Prop where
  nonempty : segments ≠ []
  named : ∀ s ∈ segments, s ≠ "" ∧ '/' ∉ s.toList
  spelled : line = Text.join "/" segments ++ "/"
  trimmed : EndsWithout isBlank line.toList
  notComment : line.toList.head? ≠ some '#'

def RunsIn (segments : List String) (text : String) : Prop :=
  segments.map String.toList <:+: splitOn '/' text.toList

section Line

variable {parts : List (List Char)} {name cs : List Char}

theorem endsWithout_joinWith (hne : parts ≠ []) (h : ∀ part ∈ parts, part ≠ [] ∧ '/' ∉ part) :
    EndsWithout (· = '/') (joinWith ['/'] parts) := by
  have hsplit := splitOn_joinWith hne fun part hpart => (h part hpart).2
  have hinner : ∀ xs ys, joinWith ['/'] parts = xs ++ '/' :: ys → xs ≠ [] ∧ ys ≠ [] := by
    intro xs ys hjoin
    rw [hjoin, splitOn_append] at hsplit
    have hparts : ∀ part ∈ splitOn '/' xs ++ splitOn '/' ys, part ≠ [] :=
      fun part hpart => (h part (hsplit ▸ hpart)).1
    constructor
    · rintro rfl
      exact hparts [] (by simp [splitOn]) rfl
    · rintro rfl
      exact hparts [] (by simp [splitOn]) rfl
  constructor
  · intro c hc
    obtain ⟨ys, hys⟩ := List.head?_eq_some_iff.mp hc
    simpa using fun heq : c = '/' => (hinner [] ys (heq ▸ hys)).1 rfl
  · intro c hc
    obtain ⟨xs, hxs⟩ := List.getLast?_eq_some_iff.mp hc
    simpa using fun heq : c = '/' => (hinner xs [] (heq ▸ hxs)).2 rfl

theorem joinWith_ne_nil (hne : parts ≠ []) (h : ∀ part ∈ parts, part ≠ [] ∧ '/' ∉ part) :
    joinWith ['/'] parts ≠ [] := by
  intro hnil
  have hsplit := splitOn_joinWith hne fun part hpart => (h part hpart).2
  rw [hnil] at hsplit
  exact (h [] (hsplit ▸ List.mem_cons_self)).1 rfl

theorem ofChars_directory (hne : name ≠ []) (hends : EndsWithout (· = '/') name)
    (hcomment : name.head? ≠ some '#') :
    ofChars (name ++ ['/']) = some (.directory (String.ofList name)) := by
  have htrim : trimBy (· = '/') name = name := trimBy_eq_self_iff.mpr hends
  unfold ofChars
  split
  · rename_i hnil
    exact absurd hnil (by simp)
  · rename_i cs hhash
    have hhead : (name ++ ['/']).head? = name.head? := List.head?_append_of_ne_nil name hne
    rw [← hhead, hhash] at hcomment
    exact absurd rfl hcomment
  · simp [htrim, hne]

theorem joinWith_mem_splitOn_iff (hne : parts ≠ []) (h : ∀ part ∈ parts, '/' ∉ part) :
    joinWith ['/'] parts ∈ splitOn '/' cs ↔ parts.length = 1 ∧ parts <:+: splitOn '/' cs := by
  constructor
  · intro hmem
    -- No piece holds a slash, so the parts were not divided by one.
    have hparts : parts = [joinWith ['/'] parts] := by
      rw [← splitOn_of_notMem (not_mem_of_mem_splitOn hmem), splitOn_joinWith hne h]
    rw [hparts]
    exact ⟨rfl, (List.singleton_infix_iff _ _).mpr hmem⟩
  · rintro ⟨hlength, hinfix⟩
    obtain ⟨part, rfl⟩ := List.length_eq_one_iff.mp hlength
    exact (List.singleton_infix_iff _ _).mp hinfix

end Line

theorem IsDirectoryLine.parts_ne_nil (h : IsDirectoryLine line segments) :
    segments.map String.toList ≠ [] := by
  simpa using h.nonempty

theorem IsDirectoryLine.parts_named (h : IsDirectoryLine line segments) :
    ∀ part ∈ segments.map String.toList, part ≠ [] ∧ '/' ∉ part := by
  intro part hpart
  obtain ⟨s, hs, rfl⟩ := List.mem_map.mp hpart
  exact ⟨by simpa using (h.named s hs).1, (h.named s hs).2⟩

theorem parse_directoryLine (h : IsDirectoryLine line segments) :
    parse line = some (.directory (Text.join "/" segments)) := by
  have hline : line.toList = joinWith ['/'] (segments.map String.toList) ++ ['/'] := by
    rw [h.spelled, String.toList_append, Text.join, String.toList_ofList]
    rfl
  have hne := joinWith_ne_nil h.parts_ne_nil h.parts_named
  have hcomment : (joinWith ['/'] (segments.map String.toList)).head? ≠ some '#' := by
    rw [← List.head?_append_of_ne_nil _ hne, ← hline]
    exact h.notComment
  have hends := endsWithout_joinWith h.parts_ne_nil h.parts_named
  have htrim : trim line.toList = line.toList := trimBy_eq_self_iff.mpr h.trimmed
  rw [parse, htrim, hline, ofChars_directory hne hends hcomment]
  rfl

theorem subject_of_plain (htext : path.text? = some text) (hplain : '\\' ∉ text.toList) :
    subject path = text.toList := by
  have hkept : ∀ c ∈ text.toList, (if c = '\\' then '/' else c) = id c := by
    intro c hc
    refine if_neg ?_
    rintro rfl
    exact hplain hc
  rw [subject, htext, Option.getD_some, Path.backslashesToSlashes, String.toList_ofList,
    List.map_congr_left hkept, List.map_id]

theorem isIgnored_directoryLine_iff (h : IsDirectoryLine line segments)
    (htext : path.text? = some text) (hplain : '\\' ∉ text.toList) :
    ∃ pattern, parse line = some pattern ∧
      (isIgnored path [pattern] = true ↔ segments.length = 1 ∧ RunsIn segments text) := by
  refine ⟨_, parse_directoryLine h, ?_⟩
  have hhits : isIgnored path [.directory (Text.join "/" segments)] = true ↔
      joinWith ['/'] (segments.map String.toList) ∈ splitOn '/' text.toList := by
    rw [isIgnored, subject_of_plain htext hplain]
    simp [hits, Text.join]
  rw [hhits, joinWith_mem_splitOn_iff h.parts_ne_nil fun part hpart => (h.parts_named part hpart).2,
    List.length_map, RunsIn]

theorem isIgnored_directoryLine_iff_tests :
    IsDirectoryLine "Unit Tests/" ["Unit Tests"] ∧
      (Path.ofString "Game/Unit Tests/Move.cs").text? = some "Game/Unit Tests/Move.cs" ∧
      '\\' ∉ "Game/Unit Tests/Move.cs".toList ∧
      ∃ pattern, parse "Unit Tests/" = some pattern ∧
        (isIgnored (.ofString "Game/Unit Tests/Move.cs") [pattern] = true ↔
          ["Unit Tests"].length = 1 ∧ RunsIn ["Unit Tests"] "Game/Unit Tests/Move.cs") := by
  have h : IsDirectoryLine "Unit Tests/" ["Unit Tests"] :=
    ⟨by decide, by decide, by decide +kernel, by decide +kernel, by decide⟩
  have htext : (Path.ofString "Game/Unit Tests/Move.cs").text? = some "Game/Unit Tests/Move.cs" := by
    decide +kernel
  exact ⟨h, htext, by decide, isIgnored_directoryLine_iff h htext (by decide)⟩

theorem not_ignored_below_segments :
    IsDirectoryLine "a/b/" ["a", "b"] ∧ RunsIn ["a", "b"] "a/b/C.cs" ∧
      parse "a/b/" = some (.directory "a/b") ∧
      isIgnored (.ofString "a/b/C.cs") [.directory "a/b"] = false := by
  have h : IsDirectoryLine "a/b/" ["a", "b"] :=
    ⟨by decide, by decide, by decide +kernel, by decide +kernel, by decide⟩
  have hruns : RunsIn ["a", "b"] "a/b/C.cs" := ⟨[], ["C.cs".toList], by decide⟩
  exact ⟨h, hruns, by decide +kernel, by decide +kernel⟩

end IgnorePattern

end EntityGraph
