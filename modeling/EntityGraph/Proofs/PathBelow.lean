import EntityGraph.FileTree.Resolve
import EntityGraph.Proofs.Cuts
import EntityGraph.Proofs.Utf8
import Mathlib.Data.List.Basic
import Mathlib.Data.List.Induction

namespace EntityGraph

namespace Path

variable {root : Path} {n : Name} {names : List Name}

def under (root : Path) (names : List Name) : Path :=
  names.foldl joinName root

def base (p : Path) : List UInt8 :=
  if p.endsInSlash then p.bytes.dropLast else p.bytes

def stem (p : Path) : List Name :=
  Text.splitOn slash p.base

theorem isName_iff :
    isName n = true ↔ n ≠ [] ∧ slash ∉ n ∧ 0 ∉ n ∧ n ≠ [dot] ∧ n ≠ [dot, dot] := by
  simp [isName, and_assoc]

theorem not_isIdle_of_isName (h : isName n = true) : isIdle n = false := by
  obtain ⟨hne, -, -, hdot, -⟩ := isName_iff.mp h
  simp [isIdle, hne, hdot]

theorem partOfPiece_of_isName (h : isName n = true) : partOfPiece n = .name n := by
  obtain ⟨-, -, -, -, hup⟩ := isName_iff.mp h
  exact if_neg hup

theorem under_concat (root : Path) (names : List Name) (n : Name) :
    under root (names ++ [n]) = (under root names).joinName n := by
  simp [under]

theorem bytes_eq_joinWith_pieces (p : Path) : p.bytes = Text.joinWith [slash] p.pieces :=
  (Text.joinWith_splitOn slash p.bytes).symm

theorem slash_notMem_of_mem_pieces {p : Path} {piece : Name} (h : piece ∈ p.pieces) :
    slash ∉ piece :=
  Text.not_mem_of_mem_splitOn h

theorem stem_ne_nil (p : Path) : p.stem ≠ [] :=
  Text.splitOn_ne_nil slash p.base

theorem base_eq_bytes (h : root.endsInSlash = false) : root.base = root.bytes := by
  simp [base, h]

theorem bytes_eq_base_append (h : root.endsInSlash = true) : root.bytes = root.base ++ [slash] := by
  rw [base, if_pos h]
  have hlast : root.bytes.getLast? = some slash := by simpa [endsInSlash] using h
  exact (List.dropLast_append_getLast? slash hlast).symm

theorem pieces_eq_stem (h : root.endsInSlash = false) : root.pieces = root.stem := by
  rw [stem, base_eq_bytes h, pieces]

theorem pieces_eq_stem_append (h : root.endsInSlash = true) : root.pieces = root.stem ++ [[]] := by
  rw [pieces, bytes_eq_base_append h, Text.splitOn_append]
  rfl

theorem bytes_join {p : Path} (hroot : root.isEmpty = false) (hp : p.isAbsolute = false) :
    (root.join p).bytes = root.base ++ slash :: p.bytes := by
  unfold join
  rw [hp]
  cases hlast : root.bytes.getLast? with
  | none => simp [isEmpty, List.getLast?_eq_none_iff.mp hlast] at hroot
  | some last =>
      by_cases h : last = slash
      · have hends : root.endsInSlash = true := by simp [endsInSlash, hlast, h]
        simp [h, bytes_eq_base_append hends]
      · have hends : root.endsInSlash = false := by simp [endsInSlash, hlast, h]
        simp [h, base_eq_bytes hends]

theorem isAbsolute_eq_false_of_isName (hn : isName n = true) : (⟨n⟩ : Path).isAbsolute = false := by
  obtain ⟨hne, hslash, -, -, -⟩ := isName_iff.mp hn
  cases n with
  | nil => exact absurd rfl hne
  | cons b n =>
      have hb : b ≠ slash := fun h => hslash (by simp [h])
      simpa [isAbsolute] using hb

section Join

variable (hroot : root.isEmpty = false) (hn : isName n = true)
include hroot hn

theorem bytes_joinName : (root.joinName n).bytes = root.base ++ slash :: n :=
  bytes_join hroot (isAbsolute_eq_false_of_isName hn)

theorem isEmpty_joinName : (root.joinName n).isEmpty = false := by
  rw [isEmpty, bytes_joinName hroot hn]
  simp

theorem endsInSlash_joinName : (root.joinName n).endsInSlash = false := by
  obtain ⟨hne, hslash, -, -, -⟩ := isName_iff.mp hn
  have hlast : (root.joinName n).bytes.getLast? = some (n.getLast hne) := by
    rw [bytes_joinName hroot hn, List.getLast?_append, List.getLast?_cons,
      List.getLast?_eq_some_getLast hne]
    rfl
  have hlastne : n.getLast hne ≠ slash := fun h => hslash (h ▸ List.getLast_mem hne)
  simp [endsInSlash, hlast, hlastne]

theorem stem_joinName : (root.joinName n).stem = root.stem ++ [n] := by
  rw [stem, base_eq_bytes (endsInSlash_joinName hroot hn), bytes_joinName hroot hn,
    Text.splitOn_append, Text.splitOn_of_notMem (isName_iff.mp hn).2.1, stem]

theorem isAbsolute_joinName : (root.joinName n).isAbsolute = root.isAbsolute := by
  unfold isAbsolute
  rw [bytes_joinName hroot hn]
  by_cases h : root.endsInSlash = true
  · rw [bytes_eq_base_append h]
    cases root.base <;> simp
  · rw [base_eq_bytes (by simpa using h)]
    cases hb : root.bytes with
    | nil => simp [isEmpty, hb] at hroot
    | cons b bs => simp

theorem length_joinName : root.bytes.length < (root.joinName n).bytes.length := by
  obtain ⟨hne, -, -, -, -⟩ := isName_iff.mp hn
  have hpos : 0 < n.length := List.length_pos_iff.mpr hne
  rw [bytes_joinName hroot hn, List.length_append, List.length_cons]
  by_cases h : root.endsInSlash = true
  · rw [bytes_eq_base_append h, List.length_append, List.length_singleton]
    omega
  · rw [base_eq_bytes (by simpa using h)]
    omega

end Join

section Under

variable (hroot : root.isEmpty = false) (hnames : ∀ n ∈ names, isName n = true)
include hroot hnames

theorem isEmpty_under : (under root names).isEmpty = false := by
  induction names using List.reverseRecOn with
  | nil => exact hroot
  | append_singleton names n ih =>
      rw [under_concat]
      exact isEmpty_joinName (ih fun m hm => hnames m (by simp [hm])) (hnames n (by simp))

theorem stem_under : (under root names).stem = root.stem ++ names := by
  induction names using List.reverseRecOn with
  | nil => simp [under]
  | append_singleton names n ih =>
      have hinit : ∀ m ∈ names, isName m = true := fun m hm => hnames m (by simp [hm])
      rw [under_concat, stem_joinName (isEmpty_under hroot hinit) (hnames n (by simp)), ih hinit,
        List.append_assoc]

theorem isAbsolute_under : (under root names).isAbsolute = root.isAbsolute := by
  induction names using List.reverseRecOn with
  | nil => rfl
  | append_singleton names n ih =>
      have hinit : ∀ m ∈ names, isName m = true := fun m hm => hnames m (by simp [hm])
      rw [under_concat, isAbsolute_joinName (isEmpty_under hroot hinit) (hnames n (by simp)),
        ih hinit]

theorem length_under : root.bytes.length + names.length ≤ (under root names).bytes.length := by
  induction names using List.reverseRecOn with
  | nil => simp [under]
  | append_singleton names n ih =>
      have hinit : ∀ m ∈ names, isName m = true := fun m hm => hnames m (by simp [hm])
      have hlonger := length_joinName (isEmpty_under hroot hinit) (hnames n (by simp))
      have hrest := ih hinit
      rw [under_concat, List.length_append, List.length_singleton]
      omega

theorem endsInSlash_under (hne : names ≠ []) : (under root names).endsInSlash = false := by
  obtain ⟨init, n, rfl⟩ := (List.eq_nil_or_concat' names).resolve_left hne
  have hinit : ∀ m ∈ init, isName m = true := fun m hm => hnames m (by simp [hm])
  rw [under_concat]
  exact endsInSlash_joinName (isEmpty_under hroot hinit) (hnames n (by simp))

theorem pieces_under (hne : names ≠ []) : (under root names).pieces = root.stem ++ names := by
  rw [pieces_eq_stem (endsInSlash_under hroot hnames hne), stem_under hroot hnames]

end Under

theorem steps_eq (p : Path) : p.steps = p.stem.filter (!·.isEmpty) := by
  unfold steps
  by_cases h : p.endsInSlash = true
  · rw [pieces_eq_stem_append h, List.filter_append]
    simp
  · rw [pieces_eq_stem (by simpa using h)]

theorem steps_under (hroot : root.isEmpty = false) (hnames : ∀ n ∈ names, isName n = true) :
    (under root names).steps = root.steps ++ names := by
  rw [steps_eq, stem_under hroot hnames, List.filter_append, steps_eq]
  congr 1
  rw [List.filter_eq_self]
  intro n hn
  simp [(isName_iff.mp (hnames n hn)).1]

def partsOf : List Name → List PathPart
  | [] => []
  | first :: rest =>
      if first.isEmpty then .root :: body rest
      else if first = [dot] then .here :: body rest
      else body (first :: rest)

theorem body_append (xs ys : List Name) : body (xs ++ ys) = body xs ++ body ys := by
  simp [body]

theorem body_names (hnames : ∀ n ∈ names, isName n = true) : body names = names.map .name := by
  unfold body
  have hkept : names.filter (!isIdle ·) = names := by
    rw [List.filter_eq_self]
    intro n hn
    simp [not_isIdle_of_isName (hnames n hn)]
  rw [hkept]
  exact List.map_congr_left fun n hn => partOfPiece_of_isName (hnames n hn)

theorem partsOf_append {ps : List Name} (hps : ps ≠ []) (qs : List Name) :
    partsOf (ps ++ qs) = partsOf ps ++ body qs := by
  cases ps with
  | nil => exact absurd rfl hps
  | cons first rest =>
      have hbody : body (first :: (rest ++ qs)) = body (first :: rest) ++ body qs :=
        body_append (first :: rest) qs
      simp only [List.cons_append, partsOf]
      split
      · rw [body_append, List.cons_append]
      · split
        · rw [body_append, List.cons_append]
        · exact hbody

theorem components_eq_partsOf (hroot : root.isEmpty = false) :
    root.components = partsOf root.pieces := by
  have hbytes : ¬root.bytes.isEmpty = true := by simpa [isEmpty] using hroot
  rw [components, if_neg hbytes]
  cases root.pieces <;> rfl

theorem components_eq (hroot : root.isEmpty = false) : root.components = partsOf root.stem := by
  rw [components_eq_partsOf hroot]
  by_cases h : root.endsInSlash = true
  · rw [pieces_eq_stem_append h, partsOf_append (stem_ne_nil root)]
    simp [body, isIdle]
  · rw [pieces_eq_stem (by simpa using h)]

theorem components_under (hroot : root.isEmpty = false) (hnames : ∀ n ∈ names, isName n = true) :
    (under root names).components = root.components ++ names.map .name := by
  rw [components_eq (isEmpty_under hroot hnames), stem_under hroot hnames,
    partsOf_append (stem_ne_nil root), body_names hnames, components_eq hroot]

theorem dropWhile_isIdle_names (hnames : ∀ n ∈ names, isName n = true) :
    names.dropWhile isIdle = names := by
  cases names with
  | nil => rfl
  | cons n names =>
      exact List.dropWhile_cons_of_neg (by simp [not_isIdle_of_isName (hnames n (by simp))])

theorem isPrefix_dropIdleEnd (pieces : List Name) : dropIdleEnd pieces <+: pieces := by
  have hsuffix := List.dropWhile_suffix (l := pieces.reverse) isIdle
  rwa [← List.reverse_prefix, List.reverse_reverse] at hsuffix

theorem dropIdleEnd_names (hnames : ∀ n ∈ names, isName n = true) : dropIdleEnd names = names := by
  unfold dropIdleEnd
  rw [dropWhile_isIdle_names fun n hn => hnames n (List.mem_reverse.mp hn), List.reverse_reverse]

theorem dropWhile_dropComponents (xs ys : List Name) :
    (dropComponents (body xs).length (xs ++ ys)).dropWhile isIdle = ys.dropWhile isIdle := by
  induction xs with
  | nil => simp [body, dropComponents]
  | cons x xs ih =>
      cases hx : isIdle x with
      | true =>
          have hbody : body (x :: xs) = body xs := by simp [body, hx]
          rw [hbody]
          cases hlen : (body xs).length with
          | zero =>
              rw [hlen, dropComponents] at ih
              rw [dropComponents, List.cons_append, List.dropWhile_cons_of_pos hx, ih]
          | succ k =>
              rw [hlen] at ih
              rw [List.cons_append, dropComponents, if_pos hx, ih]
      | false =>
          have hbody : (body (x :: xs)).length = (body xs).length + 1 := by simp [body, hx]
          rw [hbody, List.cons_append, dropComponents, if_neg (by simp [hx]), ih]

theorem length_partsOf (first : Name) (others : List Name) :
    (partsOf (first :: others)).length = (body others).length + 1 := by
  rw [partsOf]
  split
  · rw [List.length_cons]
  · rename_i hempty
    split
    · rw [List.length_cons]
    · rename_i hdot
      have hidle : isIdle first = false := by simp [isIdle, hempty, hdot]
      simp [body, hidle]

theorem rest_under (hroot : root.isEmpty = false) (hnames : ∀ n ∈ names, isName n = true)
    (hne : names ≠ []) : (under root names).rest root.components.length = ofPieces names := by
  have hpieces := pieces_under hroot hnames hne
  have hlen := congrArg List.length (components_eq hroot)
  have hend : dropIdleEnd (names.dropWhile isIdle) = names := by
    rw [dropWhile_isIdle_names hnames, dropIdleEnd_names hnames]
  cases hstem : root.stem with
  | nil => exact absurd hstem (stem_ne_nil root)
  | cons first others =>
      rw [hstem, length_partsOf] at hlen
      rw [hstem] at hpieces
      rw [hlen, rest, hpieces]
      simp only [List.cons_append]
      cases hidle : isIdle first with
      | true =>
          rw [if_pos rfl, dropWhile_dropComponents, hend]
      | false =>
          have hbody : (body (first :: others)).length = (body others).length + 1 := by
            simp [body, hidle]
          have hdrop := dropWhile_dropComponents (first :: others) names
          rw [hbody, List.cons_append] at hdrop
          rw [if_neg Bool.false_ne_true, hdrop, hend]

theorem relativeTo?_under (hroot : root.isEmpty = false) (hnames : ∀ n ∈ names, isName n = true)
    (hne : names ≠ []) : (under root names).relativeTo? root = some (ofPieces names) := by
  have hprefix : root.components.isPrefixOf (under root names).components = true := by
    rw [components_under hroot hnames]
    simp
  rw [relativeTo?, if_pos hprefix, rest_under hroot hnames hne]

section OfPieces

variable {pieces : List Name}

theorem pieces_ofPieces (hslash : ∀ piece ∈ pieces, slash ∉ piece) (hne : pieces ≠ []) :
    (ofPieces pieces).pieces = pieces :=
  Text.splitOn_joinWith hne hslash

theorem isEmpty_ofPieces (hslash : ∀ piece ∈ pieces, slash ∉ piece) (hne : pieces ≠ [])
    (hempty : pieces ≠ [[]]) : (ofPieces pieces).isEmpty = false := by
  by_contra h
  rw [Bool.not_eq_false, isEmpty, List.isEmpty_iff] at h
  have hpieces := pieces_ofPieces hslash hne
  rw [Path.pieces, h] at hpieces
  exact hempty hpieces.symm

theorem components_ofPieces (hslash : ∀ piece ∈ pieces, slash ∉ piece)
    (hhead : ∀ piece ∈ pieces.head?, isIdle piece = false) :
    (ofPieces pieces).components = body pieces := by
  cases pieces with
  | nil => rfl
  | cons first rest =>
      have hfirst := hhead first rfl
      have hempty : first :: rest ≠ [[]] := by
        rintro ⟨rfl, rfl⟩
        cases hfirst
      have hne := List.cons_ne_nil first rest
      rw [components_eq_partsOf (isEmpty_ofPieces hslash hne hempty), pieces_ofPieces hslash hne]
      simp only [isIdle, Bool.or_eq_false_iff, beq_eq_false_iff_ne, ne_eq] at hfirst
      rw [partsOf, hfirst.1, if_neg Bool.false_ne_true, if_neg hfirst.2]

theorem components_ofPieces_names (hnames : ∀ n ∈ names, isName n = true) :
    (ofPieces names).components = names.map .name := by
  rw [components_ofPieces (fun n hn => (isName_iff.mp (hnames n hn)).2.1), body_names hnames]
  exact fun n hn => not_isIdle_of_isName (hnames n (List.mem_of_mem_head? hn))

end OfPieces

theorem fileName?_under (hroot : root.isEmpty = false) (hnames : ∀ n ∈ names, isName n = true)
    (hne : names ≠ []) : (under root names).fileName? = (ofPieces names).fileName? := by
  obtain ⟨init, n, rfl⟩ := (List.eq_nil_or_concat' names).resolve_left hne
  rw [fileName?, fileName?, components_under hroot hnames, components_ofPieces_names hnames]
  simp

theorem isSourceFile_under (hroot : root.isEmpty = false) (hnames : ∀ n ∈ names, isName n = true)
    (hne : names ≠ []) (extension : String) :
    (under root names).isSourceFile extension = (ofPieces names).isSourceFile extension := by
  have hextension : (under root names).extension? = (ofPieces names).extension? := by
    rw [extension?, extension?, fileName?_under hroot hnames hne]
  rw [isSourceFile, isSourceFile, hextension]

theorem exists_text_ofPieces (hutf8 : ∀ n ∈ names, (Utf8.decode? n).isSome) :
    ∃ cs, Utf8.decode? (ofPieces names).bytes = some cs := by
  induction names with
  | nil => exact ⟨[], rfl⟩
  | cons n names ih =>
      obtain ⟨cs, hcs⟩ := Option.isSome_iff_exists.mp (hutf8 n (by simp))
      obtain ⟨ds, hds⟩ := ih fun m hm => hutf8 m (by simp [hm])
      cases names with
      | nil => exact ⟨cs, hcs⟩
      | cons m names =>
          have hslash : Utf8.decode? [slash] = some ['/'] := by decide
          exact ⟨_, Utf8.decode?_append (Utf8.decode?_append hcs hslash) hds⟩

theorem displayBelow_under (hroot : root.isEmpty = false) (hnames : ∀ n ∈ names, isName n = true)
    (hne : names ≠ []) (hutf8 : ∀ n ∈ names, (Utf8.decode? n).isSome) :
    (under root names).displayBelow root = ((ofPieces names).text?).getD "" := by
  obtain ⟨cs, hcs⟩ := exists_text_ofPieces hutf8
  have htext : (ofPieces names).text? = some (String.ofList cs) := by rw [text?, hcs]; rfl
  rw [displayBelow, relativeText, relativeTo?_under hroot hnames hne]
  simp [htext]

end Path

end EntityGraph
