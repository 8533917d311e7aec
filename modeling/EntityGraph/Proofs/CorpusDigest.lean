import EntityGraph.Proofs.RelativePaths
import EntityGraph.Scan

namespace EntityGraph

namespace Utf8

variable {cs : List Char} {s : String} {bytes : List UInt8}

def IsAscii (c : Char) : Prop := c.toNat < 0x80

theorem length_encode_of_ascii (h : ∀ c ∈ cs, IsAscii c) : (encode cs).length = cs.length := by
  induction cs with
  | nil => rfl
  | cons c cs ih =>
      have hsize : c.utf8Size = 1 := by
        rw [Char.utf8Size_eq_one_iff, UInt32.le_iff_toNat_le]
        exact Nat.le_of_lt_succ (h c List.mem_cons_self)
      rw [encode, List.flatMap_cons, List.length_append, String.length_utf8EncodeChar, hsize,
        List.length_cons, Nat.add_comm]
      exact congrArg (· + 1) (ih fun d hd => h d (List.mem_cons_of_mem c hd))

theorem eq_null_of_zero_mem {c : Char} (h : (0 : UInt8) ∈ String.utf8EncodeChar c) :
    c = '\x00' :=
  Char.toNat_inj.mp (toNat_eq_of_mem_utf8EncodeChar (by decide) h)

theorem zero_mem_ofString_iff : (0 : UInt8) ∈ ofString s ↔ '\x00' ∈ s.toList := by
  rw [ofString, encode, List.mem_flatMap]
  constructor
  · rintro ⟨c, hc, hzero⟩
    rwa [← eq_null_of_zero_mem hzero]
  · intro h
    exact ⟨_, h, by decide⟩

theorem zero_mem_of_null_mem_units (h : some '\x00' ∈ units bytes) : (0 : UInt8) ∈ bytes :=
  (infix_of_mem_units h).subset (by decide)

end Utf8

namespace Path

variable {p : Path}

theorem null_notMem_display (h : (0 : UInt8) ∉ p.bytes) : '\x00' ∉ p.display.toList := by
  rw [display, Utf8.toStringLossy, String.toList_ofList, Utf8.decodeLossy, List.mem_map]
  rintro ⟨unit, hunit, hnull⟩
  cases unit with
  | none => exact absurd hnull (by decide)
  | some c =>
      rw [Option.getD_some] at hnull
      exact h (Utf8.zero_mem_of_null_mem_units (hnull ▸ hunit))

theorem zero_notMem_displayBelow (h : (0 : UInt8) ∉ p.bytes) (root : Path) :
    (0 : UInt8) ∉ Utf8.ofString (p.displayBelow root) := by
  cases hrelative : p.relativeText root with
  | ok s =>
      rw [displayBelow_of_ok hrelative]
      exact fun hzero => h ((infix_of_relativeText hrelative).subset hzero)
  | error e =>
      rw [displayBelow, hrelative, Utf8.zero_mem_ofString_iff, backslashesToSlashes,
        String.toList_ofList, List.mem_map]
      rintro ⟨c, hc, hnull⟩
      split at hnull
      · exact absurd hnull (by decide)
      · exact null_notMem_display h (hnull ▸ hc)

end Path

namespace Blake3

def IsHexDigit (c : Char) : Prop :=
  ('0' ≤ c ∧ c ≤ '9') ∨ ('a' ≤ c ∧ c ≤ 'f') ∨ ('A' ≤ c ∧ c ≤ 'F')

instance : DecidablePred IsHexDigit := fun c =>
  inferInstanceAs (Decidable (('0' ≤ c ∧ c ≤ '9') ∨ ('a' ≤ c ∧ c ≤ 'f') ∨ ('A' ≤ c ∧ c ≤ 'F')))

theorem isAscii_of_isHexDigit {c : Char} (h : IsHexDigit c) : Utf8.IsAscii c := by
  have hle : ∀ {d : Char}, d.toNat < 0x80 → c ≤ d → c.toNat < 0x80 :=
    fun hd hc => Nat.lt_of_le_of_lt hc hd
  rcases h with h | h | h <;> exact hle (by decide) h.2

structure IsHash (s : String) : Prop where
  length : s.length = 64
  digits : ∀ c ∈ s.toList, IsHexDigit c

theorem IsHash.length_ofString {s : String} (h : IsHash s) : (Utf8.ofString s).length = 64 := by
  rw [Utf8.ofString,
    Utf8.length_encode_of_ascii fun c hc => isAscii_of_isHexDigit (h.digits c hc),
    String.length_toList, h.length]

theorem isHexDigit_hexDigit {n : UInt32} (h : n.toNat < 16) : IsHexDigit (hexDigit n) := by
  have hall : ∀ m : Fin 16, IsHexDigit (hexDigit (UInt32.ofNat m)) := by decide
  have hn := hall ⟨n.toNat, h⟩
  rwa [UInt32.ofNat_toNat] at hn

theorem isHexDigit_of_mem_hexWord {w : UInt32} {c : Char} (h : c ∈ hexWord w) : IsHexDigit c := by
  have hmask : ∀ n : UInt32, (n &&& 15).toNat < 16 := by
    intro n
    rw [UInt32.toNat_and]
    exact Nat.lt_of_le_of_lt Nat.and_le_right (by decide)
  simp only [hexWord, hexByte, List.mem_append, List.mem_pair] at h
  rcases h with ((h | h) | h) | h <;> rcases h with rfl | rfl <;>
    exact isHexDigit_hexDigit (hmask _)

theorem isHash_hex (bytes : List UInt8) : IsHash (hex bytes) := by
  constructor
  · have hword : ∀ w : UInt32, (hexWord w).length = 8 := fun _ => rfl
    rw [hex, String.length_ofList, List.length_flatMap]
    simp only [hword, List.map_const', Vector.length_toList]
    rfl
  · intro c hc
    rw [hex, String.toList_ofList, List.mem_flatMap] at hc
    obtain ⟨w, -, hc⟩ := hc
    exact isHexDigit_of_mem_hexWord hc

end Blake3

namespace ScannedFile

variable {t : FileTree} {root path : Path} {f : ScannedFile}

def stamp (f : ScannedFile) : String × String := (f.relativePath, f.contentHash)

structure Stamped (f : ScannedFile) : Prop where
  path : (0 : UInt8) ∉ Utf8.ofString f.relativePath
  hash : Blake3.IsHash f.contentHash

theorem zero_notMem_of_read {bytes : List UInt8} (h : t.read path = .ok bytes) :
    (0 : UInt8) ∉ path.bytes := by
  intro hzero
  rw [FileTree.read, FileTree.locate, FileTree.resolve, FileTree.resolveAs, if_pos hzero] at h
  cases h

theorem stamped_of_read (h : read t root path = .ok f) : f.Stamped := by
  rw [read] at h
  split at h
  · rename_i bytes hread
    cases h
    exact ⟨path.zero_notMem_displayBelow (zero_notMem_of_read hread) root, Blake3.isHash_hex bytes⟩
  · cases h

end ScannedFile

namespace Scan

variable {t t' : FileTree} {root root' : Path} {paths paths' : List Path} {f g : ScannedFile}
  {files others : List ScannedFile}

theorem append_zero_cons_inj {ps qs xs ys : List UInt8} (hps : 0 ∉ ps) (hqs : 0 ∉ qs)
    (h : ps ++ 0 :: xs = qs ++ 0 :: ys) : ps = qs ∧ xs = ys := by
  induction ps generalizing qs with
  | nil =>
      cases qs with
      | nil => exact ⟨rfl, (List.cons.inj h).2⟩
      | cons q qs => exact absurd ((List.cons.inj h).1 ▸ List.mem_cons_self) hqs
  | cons p ps ih =>
      cases qs with
      | nil => exact absurd ((List.cons.inj h).1 ▸ List.mem_cons_self) hps
      | cons q qs =>
          obtain ⟨rfl, htail⟩ := List.cons.inj h
          obtain ⟨rfl, hrest⟩ := ih (List.not_mem_of_not_mem_cons hps)
            (List.not_mem_of_not_mem_cons hqs) htail
          exact ⟨rfl, hrest⟩

theorem digestEntry_append_inj {xs ys : List UInt8} (hf : f.Stamped) (hg : g.Stamped)
    (h : digestEntry f ++ xs = digestEntry g ++ ys) : f.stamp = g.stamp ∧ xs = ys := by
  simp only [digestEntry, List.append_assoc, List.cons_append] at h
  obtain ⟨hpath, hrest⟩ := append_zero_cons_inj hf.path hg.path h
  obtain ⟨hhash, hrest⟩ := List.append_inj hrest
    (hf.hash.length_ofString.trans hg.hash.length_ofString.symm)
  refine ⟨?_, (List.cons.inj hrest).2⟩
  rw [ScannedFile.stamp, ScannedFile.stamp, Utf8.ofString_injective hpath,
    Utf8.ofString_injective hhash]

theorem digestEntry_ne_nil (f : ScannedFile) : digestEntry f ≠ [] := by
  simp [digestEntry]

theorem digestInput_cons (f : ScannedFile) (files : List ScannedFile) :
    digestInput (f :: files) = digestEntry f ++ digestInput files :=
  List.flatMap_cons

theorem stamps_eq_of_digestInput (hfiles : ∀ f ∈ files, f.Stamped) (hothers : ∀ g ∈ others, g.Stamped)
    (h : digestInput files = digestInput others) :
    files.map ScannedFile.stamp = others.map ScannedFile.stamp := by
  induction files generalizing others with
  | nil =>
      cases others with
      | nil => rfl
      | cons g others =>
          rw [digestInput_cons] at h
          exact absurd (List.append_eq_nil_iff.mp h.symm).1 (digestEntry_ne_nil g)
  | cons f files ih =>
      cases others with
      | nil =>
          rw [digestInput_cons] at h
          exact absurd (List.append_eq_nil_iff.mp h).1 (digestEntry_ne_nil f)
      | cons g others =>
          rw [List.forall_mem_cons] at hfiles hothers
          rw [digestInput_cons, digestInput_cons] at h
          obtain ⟨hstamp, h⟩ := digestEntry_append_inj hfiles.1 hothers.1 h
          rw [List.map_cons, List.map_cons, hstamp, ih hfiles.2 hothers.2 h]

theorem digestInput_eq_of_stamps (h : files.map ScannedFile.stamp = others.map ScannedFile.stamp) :
    digestInput files = digestInput others := by
  have hinput : ∀ fs : List ScannedFile, digestInput fs =
      (fs.map ScannedFile.stamp).flatMap fun x =>
        Utf8.ofString x.1 ++ 0 :: Utf8.ofString x.2 ++ [0x0A] := by
    intro fs
    rw [List.flatMap_map]
    rfl
  rw [hinput, hinput, h]

theorem digestInput_eq_iff (hfiles : ∀ f ∈ files, f.Stamped) (hothers : ∀ g ∈ others, g.Stamped) :
    digestInput files = digestInput others ↔
      files.map ScannedFile.stamp = others.map ScannedFile.stamp :=
  ⟨stamps_eq_of_digestInput hfiles hothers, digestInput_eq_of_stamps⟩

def zeroHash : String := String.ofList (List.replicate 64 '0')

def fileNamed (relativePath : String) : ScannedFile :=
  { path := .ofString relativePath, relativePath, contentHash := zeroHash, declarations := [],
    damaged := false }

/-- One file whose path imitates the end of an entry and the beginning of another. -/
def fused : List ScannedFile := [fileNamed ("A.cs" ++ zeroHash ++ "\nB.cs")]

def apart : List ScannedFile := [fileNamed "A.cs", fileNamed "B.cs"]

theorem digestInput_fused_ne_apart :
    (∀ f ∈ fused, f.Stamped) ∧ (∀ f ∈ apart, f.Stamped) ∧ digestInput fused ≠ digestInput apart := by
  have hzeros : zeroHash.toList = List.replicate 64 '0' := String.toList_ofList
  have hhash : Blake3.IsHash zeroHash := by
    constructor
    · rw [← String.length_toList, hzeros, List.length_replicate]
    · intro c hc
      rw [hzeros] at hc
      rw [List.eq_of_mem_replicate hc]
      decide
  have hfused : ∀ f ∈ fused, f.Stamped := by
    rw [fused, List.forall_mem_singleton]
    refine ⟨?_, hhash⟩
    rw [fileNamed, Utf8.zero_mem_ofString_iff, String.toList_append, String.toList_append, hzeros]
    decide
  have hapart : ∀ f ∈ apart, f.Stamped := by
    rw [apart, List.forall_mem_cons, List.forall_mem_singleton]
    exact ⟨⟨by decide +kernel, hhash⟩, ⟨by decide +kernel, hhash⟩⟩
  refine ⟨hfused, hapart, fun h => ?_⟩
  have hlength := congrArg List.length ((digestInput_eq_iff hfused hapart).mp h)
  exact absurd hlength (by decide)

theorem stamped_of_mem_ofFiles (h : f ∈ (ofFiles t root paths).files) : f.Stamped := by
  induction paths with
  | nil => cases h
  | cons path paths ih =>
      rw [ofFiles] at h
      split at h
      · rename_i g hread
        rcases List.mem_cons.mp h with rfl | h
        · exact ScannedFile.stamped_of_read hread
        · exact ih h
      · exact ih h

theorem digestInput_ofFiles_eq_iff :
    digestInput (ofFiles t root paths).files = digestInput (ofFiles t' root' paths').files ↔
      (ofFiles t root paths).files.map ScannedFile.stamp =
        (ofFiles t' root' paths').files.map ScannedFile.stamp :=
  ⟨stamps_eq_of_digestInput (fun _ => stamped_of_mem_ofFiles) fun _ => stamped_of_mem_ofFiles,
    digestInput_eq_of_stamps⟩

end Scan

end EntityGraph
