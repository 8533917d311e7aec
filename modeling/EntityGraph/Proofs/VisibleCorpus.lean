import EntityGraph.Analysis
import EntityGraph.Proofs.PlainTree

namespace EntityGraph

open FileTree Enumeration

def SourceAt (t : FileTree) (c : Config) (loc : Location) (names : List Name) : Prop :=
  (∃ rights content, t.find? (names.reverse ++ loc) = some (.file rights content)) ∧
    (Path.ofPieces names).isSourceFile c.extension = true ∧
    isIgnored (Path.ofPieces names) (Analysis.patterns t c) = false

def Visible (t : FileTree) (c : Config) (loc : Location) (names : List Name)
    (bytes : List UInt8) : Prop :=
  SourceAt t c loc names ∧ t.read (c.sourceRoot.under names) = .ok bytes

def Unread (t : FileTree) (c : Config) (loc : Location) (names : List Name) : Prop :=
  SourceAt t c loc names ∧ ∃ e, t.read (c.sourceRoot.under names) = .error e

namespace Scan

variable (t : FileTree) (root : Path)

theorem files_ofFiles (paths : List Path) :
    (ofFiles t root paths).files =
      paths.filterMap fun p => (t.read p).toOption.map (ScannedFile.ofBytes root p) := by
  induction paths with
  | nil => rfl
  | cons p paths ih =>
      rw [ofFiles, ScannedFile.read, List.filterMap_cons]
      cases t.read p with
      | ok bytes => simpa [Except.toOption] using ih
      | error e => simpa [Except.toOption] using ih

theorem unreadable_ofFiles (paths : List Path) :
    (ofFiles t root paths).unreadable.map (·.path) =
      paths.filter fun p => (t.read p).toOption.isNone := by
  induction paths with
  | nil => rfl
  | cons p paths ih =>
      rw [ofFiles, ScannedFile.read]
      cases hread : t.read p with
      | ok bytes => simpa [hread, Except.toOption] using ih
      | error e => simpa [hread, Except.toOption] using ih

end Scan

section Sources

variable (t : FileTree) (c : Config) (loc : Location)

def sources : List (List Name) :=
  (t.filesBelow pathLimit loc).filter fun names =>
    (Path.ofPieces names).isSourceFile c.extension &&
      !isIgnored (Path.ofPieces names) (Analysis.patterns t c)

def visibleFiles : List (List Name × List UInt8) :=
  (sources t c loc).filterMap fun names =>
    (t.read (c.sourceRoot.under names)).toOption.map (names, ·)

def unreadSources : List (List Name) :=
  (sources t c loc).filter fun names => (t.read (c.sourceRoot.under names)).toOption.isNone

theorem sorted_sources : (sources t c loc).Pairwise (· < ·) :=
  (sorted_filesBelow t pathLimit loc).filter _

theorem nodup_sources : (sources t c loc).Nodup := by
  refine (sorted_sources t c loc).imp ?_
  intro a b hab heq
  subst heq
  exact List.lt_irrefl a hab

theorem sorted_visibleFiles : (visibleFiles t c loc).Pairwise fun a b => a.1 < b.1 := by
  unfold visibleFiles
  rw [List.pairwise_filterMap]
  refine (sorted_sources t c loc).imp ?_
  intro a b hab v hv w hw
  rw [Option.map_eq_some_iff] at hv hw
  obtain ⟨bytes, -, rfl⟩ := hv
  obtain ⟨bytes', -, rfl⟩ := hw
  exact hab

theorem nodup_visibleFiles : (visibleFiles t c loc).Nodup := by
  refine (sorted_visibleFiles t c loc).imp ?_
  intro a b hab heq
  subst heq
  exact List.lt_irrefl a.1 hab

theorem files_ofFiles_sources :
    (Scan.ofFiles t c.sourceRoot ((sources t c loc).map c.sourceRoot.under)).files =
      (visibleFiles t c loc).map fun v =>
        ScannedFile.ofBytes c.sourceRoot (c.sourceRoot.under v.1) v.2 := by
  rw [Scan.files_ofFiles, List.filterMap_map, visibleFiles, List.map_filterMap]
  congr 1
  funext names
  simp [Option.map_map, Function.comp_def]

theorem unreadable_ofFiles_sources :
    (Scan.ofFiles t c.sourceRoot ((sources t c loc).map c.sourceRoot.under)).unreadable.map
        (·.path) = (unreadSources t c loc).map c.sourceRoot.under := by
  rw [Scan.unreadable_ofFiles, List.filter_map, unreadSources]
  rfl

end Sources

theorem toOption_eq_some {ε α : Type} {x : Except ε α} {a : α} :
    x.toOption = some a ↔ x = .ok a := by
  cases x <;> simp [Except.toOption]

theorem toOption_isNone {ε α : Type} {x : Except ε α} :
    x.toOption.isNone = true ↔ ∃ e, x = .error e := by
  cases x <;> simp [Except.toOption]

section Plain

variable {t : FileTree} {c : Config} {loc : Location} (h : PlainBelow t c.sourceRoot loc)
include h

theorem mem_sources {names : List Name} : names ∈ sources t c loc ↔ SourceAt t c loc names := by
  rw [sources, List.mem_filter, h.mem_filesBelow_iff, SourceAt]
  simp

theorem mem_visibleFiles {names : List Name} {bytes : List UInt8} :
    (names, bytes) ∈ visibleFiles t c loc ↔ Visible t c loc names bytes := by
  rw [visibleFiles, List.mem_filterMap]
  constructor
  · rintro ⟨names', hsource, hread⟩
    rw [Option.map_eq_some_iff] at hread
    obtain ⟨bytes', hread, heq⟩ := hread
    cases heq
    exact ⟨(mem_sources h).mp hsource, toOption_eq_some.mp hread⟩
  · rintro ⟨hsource, hread⟩
    exact ⟨names, (mem_sources h).mpr hsource, by rw [hread]; rfl⟩

theorem mem_unreadSources {names : List Name} :
    names ∈ unreadSources t c loc ↔ Unread t c loc names := by
  rw [unreadSources, List.mem_filter, mem_sources h, toOption_isNone, Unread]

theorem ne_nil_of_sourceAt {names : List Name} (hsource : SourceAt t c loc names) : names ≠ [] := by
  rintro rfl
  obtain ⟨⟨rights, content, hfile⟩, -, -⟩ := hsource
  obtain ⟨r, hroot⟩ := h.find?_root
  rw [List.reverse_nil, List.nil_append, hroot] at hfile
  cases hfile

theorem displayBelow_of_sourceAt {names : List Name} (hsource : SourceAt t c loc names) :
    (c.sourceRoot.under names).displayBelow c.sourceRoot =
      ((Path.ofPieces names).text?).getD "" := by
  have hne := ne_nil_of_sourceAt h hsource
  obtain ⟨⟨rights, content, hfile⟩, -, -⟩ := hsource
  refine Path.displayBelow_under h.isEmpty_root (isName_of_mem_down hfile) hne ?_
  intro n hn
  exact h.utf8_of_find? hfile n (List.mem_reverse.mpr hn)

theorem files_ofVisits :
    (ofVisits c.sourceRoot c.extension (Analysis.patterns t c)
      ((t.filesBelow pathLimit loc).map fun names => .file (c.sourceRoot.under names))).files =
      (sources t c loc).map c.sourceRoot.under := by
  have hfiles : ((t.filesBelow pathLimit loc).map
      fun names => Visit.file (c.sourceRoot.under names)).filterMap Visit.file? =
      (t.filesBelow pathLimit loc).map c.sourceRoot.under := by
    rw [List.filterMap_map]
    exact congrFun List.filterMap_eq_map _
  rw [ofVisits, hfiles]
  simp only [List.filter_map, List.filter_filter, sources]
  congr 1
  refine List.filter_congr ?_
  intro names hmem
  obtain ⟨rights, content, hfile⟩ := h.mem_filesBelow_iff.mp hmem
  have hnames := isName_of_mem_down hfile
  have hne : names ≠ [] := (mem_filesBelow.mp hmem).1
  simp only [Function.comp_apply, below, Path.relativeTo?_under h.isEmpty_root hnames hne,
    Path.isSourceFile_under h.isEmpty_root hnames hne, Option.getD_some]
  rw [Bool.and_comm]

theorem ofTree_eq :
    Analysis.ofTree t c = .ok (Analysis.ofScan c.skipDebugSystems
      (Scan.ofFiles t c.sourceRoot ((sources t c loc).map c.sourceRoot.under))) := by
  rw [Analysis.ofTree, Analysis.enumerate, h.enumerate_eq, Except.map, files_ofVisits h]

end Plain

end EntityGraph
