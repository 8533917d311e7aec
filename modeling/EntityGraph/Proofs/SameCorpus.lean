import EntityGraph.FileTree.Layout
import EntityGraph.Proofs.CorpusDigest
import EntityGraph.Proofs.VisibleCorpus

namespace EntityGraph

open FileTree Enumeration

def ScannedFile.facts (f : ScannedFile) : String × String × List Declaration :=
  (f.relativePath, f.contentHash, f.declarations)

section Facts

variable {files others : List ScannedFile}
  (h : files.map ScannedFile.facts = others.map ScannedFile.facts)
include h

theorem length_eq_of_facts : files.length = others.length := by
  have hlen := congrArg List.length h
  rwa [List.length_map, List.length_map] at hlen

theorem corpus_eq_of_facts : corpus files = corpus others := by
  have hcorpus : ∀ fs : List ScannedFile,
      corpus fs = (fs.map ScannedFile.facts).flatMap fun x => x.2.2.flatMap Declaration.walk := by
    intro fs
    rw [List.flatMap_map]
    rfl
  rw [hcorpus, hcorpus, h]

theorem digest_eq_of_facts : Scan.digest files = Scan.digest others := by
  have hstamps := congrArg (List.map fun x => (x.1, x.2.1)) h
  rw [List.map_map, List.map_map] at hstamps
  exact congrArg Blake3.hex (Scan.digestInput_eq_of_stamps hstamps)

theorem extract_eq_of_facts : ComponentType.extract files = ComponentType.extract others := by
  have hcorpus := corpus_eq_of_facts h
  unfold ComponentType.extract ComponentType.parts markedNames
  rw [hcorpus]

theorem discoverSystems_eq_of_facts (index : NameIndex) (skipDebug : Bool) :
    discoverSystems files index skipDebug = discoverSystems others index skipDebug := by
  have hcorpus := corpus_eq_of_facts h
  unfold discoverSystems SystemType.parts SystemType.partDeclarations markedNames
  rw [hcorpus]

end Facts

namespace Analysis

structure SameResults (a b : Analysis) : Prop where
  files : a.files.map ScannedFile.facts = b.files.map ScannedFile.facts
  index : a.index = b.index
  components : a.components = b.components
  discovery : a.discovery = b.discovery
  backlinks : a.backlinks = b.backlinks
  graph : a.graph = b.graph
  report : { a.report with filesFailed := 0 } = { b.report with filesFailed := 0 }

theorem sameResults_ofScan {skipDebug : Bool} {s s' : Scan}
    (h : s.files.map ScannedFile.facts = s'.files.map ScannedFile.facts) :
    SameResults (ofScan skipDebug s) (ofScan skipDebug s') := by
  have hindex : (ofScan skipDebug s).index = (ofScan skipDebug s').index := by
    simp only [ofScan, NameIndex.build, corpus_eq_of_facts h]
  have hcomponents : (ofScan skipDebug s).components = (ofScan skipDebug s').components :=
    extract_eq_of_facts h
  have hdiscovery : (ofScan skipDebug s).discovery = (ofScan skipDebug s').discovery := by
    simp only [ofScan, NameIndex.build, corpus_eq_of_facts h, discoverSystems_eq_of_facts h]
  have hbacklinks : (ofScan skipDebug s).backlinks = (ofScan skipDebug s').backlinks :=
    congrArg (fun d : Discovery => Backlinks.ofSystems d.systems) hdiscovery
  have hgraph : (ofScan skipDebug s).graph = (ofScan skipDebug s').graph := by
    change Graph.build (ofScan skipDebug s).components (ofScan skipDebug s).discovery.systems
        (ofScan skipDebug s).backlinks =
      Graph.build (ofScan skipDebug s').components (ofScan skipDebug s').discovery.systems
        (ofScan skipDebug s').backlinks
    rw [hcomponents, hdiscovery, hbacklinks]
  refine ⟨h, hindex, hcomponents, hdiscovery, hbacklinks, hgraph, ?_⟩
  have hlength : (ofScan skipDebug s).files.length = (ofScan skipDebug s').files.length :=
    length_eq_of_facts h
  have hdigest : Scan.digest (ofScan skipDebug s).files = Scan.digest (ofScan skipDebug s').files :=
    digest_eq_of_facts h
  rw [report, report, hlength, hgraph, hdiscovery, hdigest]

end Analysis

def factsOf (v : List Name × List UInt8) : String × String × List Declaration :=
  (((Path.ofPieces v.1).text?).getD "", Blake3.hex v.2,
    (readSource (ScannedFile.textOf v.2)).declarations)

theorem facts_files {t : FileTree} {c : Config} {loc : Location}
    (h : PlainBelow t c.sourceRoot loc) :
    (Scan.ofFiles t c.sourceRoot ((sources t c loc).map c.sourceRoot.under)).files.map
        ScannedFile.facts = (visibleFiles t c loc).map factsOf := by
  rw [files_ofFiles_sources, List.map_map]
  refine List.map_congr_left ?_
  rintro ⟨names, bytes⟩ hmem
  obtain ⟨hsource, -⟩ := (mem_visibleFiles h).mp hmem
  have hdisplay := displayBelow_of_sourceAt h hsource
  simp only [Function.comp_apply, ScannedFile.facts, ScannedFile.ofBytes, factsOf, hdisplay]

theorem visibleFiles_congr {t t' : FileTree} {c c' : Config} {loc loc' : Location}
    (h : PlainBelow t c.sourceRoot loc) (h' : PlainBelow t' c'.sourceRoot loc')
    (hvisible : ∀ names bytes, Visible t c loc names bytes ↔ Visible t' c' loc' names bytes) :
    visibleFiles t c loc = visibleFiles t' c' loc' := by
  have hperm : (visibleFiles t c loc).Perm (visibleFiles t' c' loc') := by
    rw [List.perm_ext_iff_of_nodup (nodup_visibleFiles t c loc) (nodup_visibleFiles t' c' loc')]
    rintro ⟨names, bytes⟩
    rw [mem_visibleFiles h, mem_visibleFiles h', hvisible]
  refine List.Perm.eq_of_pairwise ?_ (sorted_visibleFiles t c loc)
    (sorted_visibleFiles t' c' loc') hperm
  intro a b _ _ hab hba
  exact absurd (List.lt_trans hab hba) (List.lt_irrefl a.1)

namespace Analysis

def ReportsUnread (t : FileTree) (c : Config) (loc : Location) (a : Analysis) : Prop :=
  ∃ failed : List (List Name), failed.Nodup ∧
    (∀ names, names ∈ failed ↔ Unread t c loc names) ∧
    a.unreadable.map (·.path) = failed.map c.sourceRoot.under

theorem reportsUnread {t : FileTree} {c : Config} {loc : Location}
    (h : PlainBelow t c.sourceRoot loc) (skipDebug : Bool) :
    ReportsUnread t c loc (ofScan skipDebug
      (Scan.ofFiles t c.sourceRoot ((sources t c loc).map c.sourceRoot.under))) := by
  refine ⟨unreadSources t c loc, (nodup_sources t c loc).filter _, ?_, ?_⟩
  · intro names
    exact mem_unreadSources h
  · exact unreadable_ofFiles_sources t c loc

/-- The patterns and the extension may differ, as long as they make the same files visible. -/
theorem sameResults_of_sameVisible {t t' : FileTree} {c c' : Config} {loc loc' : Location}
    (h : PlainBelow t c.sourceRoot loc) (h' : PlainBelow t' c'.sourceRoot loc')
    (hskip : c.skipDebugSystems = c'.skipDebugSystems)
    (hvisible : ∀ names bytes, Visible t c loc names bytes ↔ Visible t' c' loc' names bytes) :
    ∃ a b, ofTree t c = .ok a ∧ ofTree t' c' = .ok b ∧ SameResults a b ∧
      ReportsUnread t c loc a ∧ ReportsUnread t' c' loc' b := by
  refine ⟨_, _, ofTree_eq h, ofTree_eq h', ?_, reportsUnread h _, reportsUnread h' _⟩
  rw [hskip]
  refine sameResults_ofScan ?_
  rw [facts_files h, facts_files h', visibleFiles_congr h h' hvisible]

def laidOut (texts : List (String × String)) : FileTree :=
  texts.foldl (fun t x => (t.writeInside (.ofString x.1) (Utf8.ofString x.2)).1) fresh

def bareConfig : Config := .forRoot (.ofString ".")
def bareRoot : Location := [workingName]
def bareTree : FileTree :=
  laidOut [(".atlasignore", "Old.cs"), ("A.cs", "class A { }"), ("ui/B.cs", "class B { }")]

def crowdedConfig : Config := .forRoot (.ofString "src")
def crowdedRoot : Location := [Utf8.ofString "src", workingName]

def crowdedTree : FileTree :=
  (laidOut [("src/ui/B.cs", "class B { }"), ("src/A.cs", "class A { }"), ("src/Old.cs", "class A { }"),
    ("src/.atlasignore", "Old.cs"), ("src/notes.txt", "")])
    |>.put (Utf8.ofString "empty" :: crowdedRoot) (.directory allRights)
    |>.put (Utf8.ofString "C.cs" :: crowdedRoot) (.file ⟨false, true, false⟩ [])

theorem sameResults_bare_crowded :
    ∃ a b, ofTree bareTree bareConfig = .ok a ∧ ofTree crowdedTree crowdedConfig = .ok b ∧
      SameResults a b ∧ ReportsUnread bareTree bareConfig bareRoot a ∧
      ReportsUnread crowdedTree crowdedConfig crowdedRoot b := by
  have hbare : PlainBelow bareTree bareConfig.sourceRoot bareRoot := by
    refine @plainBelow_of_entries _ _ _ allRights ?_ ?_
    · rfl
    · decide +kernel
  have hcrowded : PlainBelow crowdedTree crowdedConfig.sourceRoot crowdedRoot := by
    refine @plainBelow_of_entries _ _ _ allRights ?_ ?_
    · rfl
    · decide +kernel
  have hsame : visibleFiles bareTree bareConfig bareRoot =
      visibleFiles crowdedTree crowdedConfig crowdedRoot := by
    decide +kernel
  refine sameResults_of_sameVisible hbare hcrowded rfl ?_
  intro names bytes
  rw [← mem_visibleFiles hbare, ← mem_visibleFiles hcrowded, hsame]

end Analysis

end EntityGraph
