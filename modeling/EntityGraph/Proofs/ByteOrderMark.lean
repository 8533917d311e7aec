import EntityGraph.Proofs.Utf8
import EntityGraph.Scan

namespace EntityGraph

namespace Utf8

variable {bytes : List UInt8} {cs : List Char}

def byteOrderMark : List UInt8 := [0xEF, 0xBB, 0xBF]

theorem units_mark (bytes : List UInt8) :
    units (byteOrderMark ++ bytes) = some '\uFEFF' :: units bytes :=
  unitsFrom_append none byteOrderMark bytes (by decide)

theorem decodeLossy_mark (bytes : List UInt8) :
    decodeLossy (byteOrderMark ++ bytes) = '\uFEFF' :: decodeLossy bytes := by
  rw [decodeLossy, units_mark]
  rfl

theorem mark_prefix_of_decodeLossy (h : decodeLossy bytes = '\uFEFF' :: cs) :
    byteOrderMark <+: bytes := by
  obtain ⟨u, us, hunits, hu, -⟩ := List.map_eq_cons_iff.mp h
  cases u with
  | none => exact absurd hu (by decide)
  | some c =>
      obtain ⟨rest, rfl, -⟩ := of_units_eq_cons hunits
      rw [Option.getD_some] at hu
      rw [hu]
      exact List.prefix_append byteOrderMark rest

end Utf8

open Utf8

namespace ScannedFile

variable {t t' : FileTree} {root path path' : Path} {bytes : List UInt8}

theorem textOf_mark (bytes : List UInt8) :
    textOf (byteOrderMark ++ bytes) = decodeLossy bytes := by
  rw [textOf, decodeLossy_mark]
  rfl

theorem textOf_of_unmarked (h : ¬byteOrderMark <+: bytes) : textOf bytes = decodeLossy bytes := by
  rw [textOf]
  split
  · rename_i rest hmark
    exact absurd (mark_prefix_of_decodeLossy hmark) h
  · rfl

theorem textOf_mark_eq_iff :
    textOf (byteOrderMark ++ bytes) = textOf bytes ↔ ¬byteOrderMark <+: bytes := by
  constructor
  · rintro h ⟨rest, rfl⟩
    rw [textOf_mark, textOf_mark, decodeLossy_mark] at h
    exact List.cons_ne_self _ _ h
  · intro h
    rw [textOf_mark, textOf_of_unmarked h]

theorem read_of_bytes (h : t.read path = .ok bytes) :
    read t root path = .ok (ofBytes root path bytes) := by
  rw [read, h]

theorem declarations_behind_mark (hmark : ¬byteOrderMark <+: bytes) (root root' : Path)
    (hplain : t.read path = .ok bytes) (hmarked : t'.read path' = .ok (byteOrderMark ++ bytes)) :
    ∃ f f', read t root path = .ok f ∧ read t' root' path' = .ok f' ∧
      f'.declarations = f.declarations ∧ f'.damaged = f.damaged ∧
      f.contentHash = Blake3.hex bytes ∧ f'.contentHash = Blake3.hex (byteOrderMark ++ bytes) := by
  have htext := textOf_mark_eq_iff.mpr hmark
  refine ⟨_, _, read_of_bytes hplain, read_of_bytes hmarked, ?_, ?_, rfl, rfl⟩
  · simp only [ofBytes, htext]
  · simp only [ofBytes, htext]

def unfinishedBytes : List UInt8 := Utf8.ofString "class A {} //" ++ [0xEF, 0xBB]

def plainAndMarked : FileTree :=
  FileTree.fresh
    |>.put [Utf8.ofString "A.cs", FileTree.workingName] (.file FileTree.fileRights unfinishedBytes)
    |>.put [Utf8.ofString "B.cs", FileTree.workingName]
      (.file FileTree.fileRights (byteOrderMark ++ unfinishedBytes))

theorem declarations_behind_mark_unfinished :
    ¬byteOrderMark <+: unfinishedBytes ∧
      plainAndMarked.read (.ofString "A.cs") = .ok unfinishedBytes ∧
      plainAndMarked.read (.ofString "B.cs") = .ok (byteOrderMark ++ unfinishedBytes) ∧
      ∃ f f', read plainAndMarked (.ofString ".") (.ofString "A.cs") = .ok f ∧
        read plainAndMarked (.ofString ".") (.ofString "B.cs") = .ok f' ∧
        f'.declarations = f.declarations ∧ f'.damaged = f.damaged ∧
        f.contentHash = Blake3.hex unfinishedBytes ∧
        f'.contentHash = Blake3.hex (byteOrderMark ++ unfinishedBytes) := by
  have hmark : ¬byteOrderMark <+: unfinishedBytes := by decide +kernel
  have hplain : plainAndMarked.read (.ofString "A.cs") = .ok unfinishedBytes := by
    decide +kernel
  have hmarked : plainAndMarked.read (.ofString "B.cs") =
      .ok (byteOrderMark ++ unfinishedBytes) := by
    decide +kernel
  exact ⟨hmark, hplain, hmarked, declarations_behind_mark hmark _ _ hplain hmarked⟩

def source (f : ScannedFile) : Path × String × List Declaration × Bool :=
  (f.path, f.relativePath, f.declarations, f.damaged)

theorem source_ofBytes_mark (hmark : ¬byteOrderMark <+: bytes) (root path : Path) :
    (ofBytes root path (byteOrderMark ++ bytes)).source = (ofBytes root path bytes).source := by
  simp only [source, ofBytes, textOf_mark_eq_iff.mpr hmark]

end ScannedFile

namespace Scan

variable {t t' : FileTree} {root : Path} {paths : List Path}

def MarkedAt (t t' : FileTree) (path : Path) : Prop :=
  t'.read path = t.read path ∨
    ∃ bytes, ¬byteOrderMark <+: bytes ∧ t.read path = .ok bytes ∧
      t'.read path = .ok (byteOrderMark ++ bytes)

theorem sources_ofFiles_marked (h : ∀ path ∈ paths, MarkedAt t t' path) :
    (ofFiles t' root paths).files.map ScannedFile.source =
        (ofFiles t root paths).files.map ScannedFile.source ∧
      (ofFiles t' root paths).unreadable = (ofFiles t root paths).unreadable := by
  induction paths with
  | nil => exact ⟨rfl, rfl⟩
  | cons path paths ih =>
      obtain ⟨hfiles, hunreadable⟩ := ih fun q hq => h q (List.mem_cons_of_mem path hq)
      rcases h path List.mem_cons_self with hsame | ⟨bytes, hmark, hplain, hmarked⟩
      · have hread : ScannedFile.read t' root path = ScannedFile.read t root path := by
          rw [ScannedFile.read, ScannedFile.read, hsame]
        rw [ofFiles, ofFiles, hread]
        cases ScannedFile.read t root path with
        | error u => exact ⟨hfiles, congrArg (u :: ·) hunreadable⟩
        | ok f => exact ⟨congrArg (f.source :: ·) hfiles, hunreadable⟩
      · rw [ofFiles, ofFiles, ScannedFile.read_of_bytes hplain, ScannedFile.read_of_bytes hmarked]
        refine ⟨?_, hunreadable⟩
        rw [List.map_cons, List.map_cons, ScannedFile.source_ofBytes_mark hmark, hfiles]

theorem corpus_ofFiles_marked (h : ∀ path ∈ paths, MarkedAt t t' path) :
    corpus (ofFiles t' root paths).files = corpus (ofFiles t root paths).files := by
  have hcorpus : ∀ files : List ScannedFile,
      corpus files = (files.map ScannedFile.source).flatMap fun x =>
        x.2.2.1.flatMap Declaration.walk := by
    intro files
    rw [List.flatMap_map]
    rfl
  rw [hcorpus, hcorpus, (sources_ofFiles_marked h).1]

end Scan

end EntityGraph
