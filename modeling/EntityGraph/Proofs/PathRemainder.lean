import EntityGraph.Proofs.PathBelow

namespace EntityGraph

namespace Path

variable {p root : Path} {first : Name} {pieces others kept : List Name}

section Body

theorem body_cons (x : Name) (xs : List Name) :
    body (x :: xs) = if isIdle x then body xs else partOfPiece x :: body xs := by
  cases hx : isIdle x <;> simp [body, hx]

theorem body_reverse (pieces : List Name) : body pieces.reverse = (body pieces).reverse := by
  rw [body, body, List.filter_reverse, List.map_reverse]

theorem body_dropWhile_isIdle (pieces : List Name) :
    body (pieces.dropWhile isIdle) = body pieces := by
  induction pieces with
  | nil => rfl
  | cons x xs ih =>
      rw [List.dropWhile_cons]
      split
      · rename_i hx
        rw [ih, body_cons, if_pos hx]
      · rfl

theorem body_dropIdleEnd (pieces : List Name) : body (dropIdleEnd pieces) = body pieces := by
  rw [dropIdleEnd, body_reverse, body_dropWhile_isIdle, body_reverse, List.reverse_reverse]

theorem body_dropComponents (n : Nat) (pieces : List Name) :
    body (dropComponents n pieces) = (body pieces).drop n := by
  fun_induction dropComponents n pieces with
  | case1 => rfl
  | case2 => rfl
  | case3 n x xs hx ih => rw [ih, body_cons, if_pos hx]
  | case4 n x xs hx ih => rw [ih, body_cons, if_neg hx, List.drop_succ_cons]

theorem partsOf_congr (h : body others = body kept) :
    partsOf (first :: others) = partsOf (first :: kept) := by
  simp only [partsOf, body_cons, h]

end Body

section Components

theorem exists_pieces_eq (p : Path) : ∃ first others, p.pieces = first :: others :=
  List.exists_cons_of_ne_nil (Text.splitOn_ne_nil slash p.bytes)

theorem components_of_isIdle (hp : p.pieces = first :: others) (hfirst : isIdle first = true) :
    (p.components = [] ∧ others = []) ∨
      ∃ x, (∀ m, x ≠ .name m) ∧ p.components = x :: body others := by
  cases hempty : p.isEmpty with
  | true =>
      rw [isEmpty, List.isEmpty_iff] at hempty
      rw [pieces, hempty] at hp
      cases hp
      exact .inl ⟨by rw [components, hempty]; rfl, rfl⟩
  | false =>
      right
      rw [components_eq_partsOf hempty, hp, partsOf]
      split
      · exact ⟨.root, fun _ => PathPart.noConfusion, rfl⟩
      · rename_i hne
        have hdot : first = [dot] := by simpa [isIdle, hne] using hfirst
        rw [if_pos hdot]
        exact ⟨.here, fun _ => PathPart.noConfusion, rfl⟩

theorem components_of_not_isIdle (hp : p.pieces = first :: others) (hfirst : isIdle first = false) :
    p.components = body (first :: others) := by
  have hbytes := p.bytes_eq_joinWith_pieces
  rw [hp] at hbytes
  have hp' : p = ofPieces (first :: others) := by rw [ofPieces, ← hbytes]
  rw [hp', components_ofPieces]
  · exact fun piece hpiece => slash_notMem_of_mem_pieces (hp ▸ hpiece)
  · rintro piece ⟨⟩
    exact hfirst

theorem mem_body_iff {m : Name} :
    .name m ∈ body pieces ↔ m ∈ pieces ∧ isIdle m = false ∧ m ≠ [dot, dot] := by
  simp only [body, List.mem_map, List.mem_filter, Bool.not_eq_true', partOfPiece]
  constructor
  · rintro ⟨piece, ⟨hpiece, hidle⟩, hname⟩
    split at hname
    · cases hname
    · rename_i hup
      cases hname
      exact ⟨hpiece, hidle, hup⟩
  · rintro ⟨hpiece, hidle, hup⟩
    exact ⟨m, ⟨hpiece, hidle⟩, if_neg hup⟩

theorem mem_components_iff {m : Name} :
    .name m ∈ p.components ↔ m ∈ p.pieces ∧ isIdle m = false ∧ m ≠ [dot, dot] := by
  obtain ⟨first, others, hp⟩ := p.exists_pieces_eq
  rw [hp]
  cases hfirst : isIdle first with
  | false => rw [components_of_not_isIdle hp hfirst, mem_body_iff]
  | true =>
      have hcomponents : .name m ∈ p.components ↔ .name m ∈ body others := by
        rcases components_of_isIdle hp hfirst with ⟨hnil, rfl⟩ | ⟨x, hx, hcons⟩
        · rw [hnil]
          rfl
        · rw [hcons, List.mem_cons, or_iff_right (Ne.symm (hx m))]
      rw [hcomponents, mem_body_iff, List.mem_cons]
      constructor
      · exact fun ⟨hm, hidle⟩ => ⟨.inr hm, hidle⟩
      · rintro ⟨rfl | hm, hidle, hup⟩
        · rw [hidle] at hfirst
          cases hfirst
        · exact ⟨hm, hidle, hup⟩

end Components

section Rest

theorem infix_ofPieces (h : kept <:+: p.pieces) : (ofPieces kept).bytes <:+: p.bytes := by
  rw [p.bytes_eq_joinWith_pieces]
  exact Text.joinWith_infix h

theorem slash_notMem_of_infix_pieces (h : kept <:+: p.pieces) : ∀ piece ∈ kept, slash ∉ piece :=
  fun _ hpiece => slash_notMem_of_mem_pieces (h.subset hpiece)

theorem isAbsolute_ofPieces (hslash : ∀ piece ∈ kept, slash ∉ piece)
    (hhead : ∀ piece ∈ kept.head?, isIdle piece = false) : (ofPieces kept).isAbsolute = false := by
  cases kept with
  | nil => rfl
  | cons first others =>
      cases first with
      | nil => exact absurd (hhead [] rfl) (by decide)
      | cons b bs =>
          have hb : b ≠ slash := by
            rintro rfl
            exact hslash (slash :: bs) List.mem_cons_self List.mem_cons_self
          cases others <;> simpa [isAbsolute, ofPieces, Text.joinWith] using hb

theorem body_pieces_ofPieces (hslash : ∀ piece ∈ kept, slash ∉ piece) :
    body (ofPieces kept).pieces = body kept := by
  cases kept with
  | nil => rfl
  | cons first others => rw [pieces_ofPieces hslash (List.cons_ne_nil first others)]

theorem trimEnd_of_isEmpty (h : p.isEmpty = true) : p.trimEnd = p := by
  obtain ⟨bytes⟩ := p
  obtain rfl := List.isEmpty_iff.mp h
  rfl

theorem trimEnd_eq (hp : p.pieces = first :: others) (hempty : p.isEmpty = false) :
    (p.trimEnd = ⟨[slash]⟩ ∧ first = [] ∧ dropIdleEnd others = []) ∨
      (p.trimEnd = ofPieces (first :: dropIdleEnd others) ∧
        first :: dropIdleEnd others ≠ [[]]) := by
  rw [trimEnd, hp]
  simp only
  split
  · rename_i hkept
    rw [hkept]
    by_cases hfirst : first = []
    · exact .inl ⟨by simp [hfirst, hempty], hfirst, rfl⟩
    · exact .inr ⟨by simp [hfirst, ofPieces, Text.joinWith], by simpa using hfirst⟩
  · rename_i hkept
    refine .inr ⟨rfl, ?_⟩
    intro h
    exact hkept (List.cons.inj h).2

theorem isPrefix_cons_dropIdleEnd (hp : p.pieces = first :: others) :
    first :: dropIdleEnd others <+: p.pieces := by
  rw [hp]
  exact (List.prefix_cons_inj first).mpr (isPrefix_dropIdleEnd others)

theorem infix_trimEnd (p : Path) : p.trimEnd.bytes <:+: p.bytes := by
  cases hempty : p.isEmpty with
  | true => rw [trimEnd_of_isEmpty hempty]
  | false =>
      obtain ⟨first, others, hp⟩ := p.exists_pieces_eq
      have hbytes := p.bytes_eq_joinWith_pieces
      rcases trimEnd_eq hp hempty with ⟨heq, rfl, -⟩ | ⟨heq, -⟩
      · rw [heq, hbytes, hp]
        cases others with
        | nil =>
            rw [hp] at hbytes
            rw [isEmpty, hbytes] at hempty
            cases hempty
        | cons next others => exact (List.prefix_append [slash] _).isInfix
      · rw [heq]
        exact infix_ofPieces (isPrefix_cons_dropIdleEnd hp).isInfix

theorem components_trimEnd (p : Path) : p.trimEnd.components = p.components := by
  cases hempty : p.isEmpty with
  | true => rw [trimEnd_of_isEmpty hempty]
  | false =>
      obtain ⟨first, others, hp⟩ := p.exists_pieces_eq
      have hsame : partsOf (first :: dropIdleEnd others) = p.components := by
        rw [components_eq_partsOf hempty, hp]
        exact partsOf_congr (body_dropIdleEnd others)
      rcases trimEnd_eq hp hempty with ⟨heq, rfl, hkept⟩ | ⟨heq, hne⟩
      · rw [heq, ← hsame, hkept]
        rfl
      · have hslash := slash_notMem_of_infix_pieces (isPrefix_cons_dropIdleEnd hp).isInfix
        have hcons := List.cons_ne_nil first (dropIdleEnd others)
        rw [heq, components_eq_partsOf (isEmpty_ofPieces hslash hcons hne),
          pieces_ofPieces hslash hcons, hsame]

theorem dropComponents_suffix (n : Nat) (pieces : List Name) :
    dropComponents n pieces <:+ pieces := by
  fun_induction dropComponents n pieces with
  | case1 | case2 => exact List.suffix_rfl
  | case3 _ piece pieces _ ih | case4 _ piece pieces _ ih =>
      exact ih.trans (List.suffix_cons piece pieces)

theorem head_dropIdleEnd (pieces : List Name) :
    ∀ piece ∈ (dropIdleEnd (pieces.dropWhile isIdle)).head?, isIdle piece = false := by
  intro piece hpiece
  obtain ⟨idle, hidle⟩ := isPrefix_dropIdleEnd (pieces.dropWhile isIdle)
  have hhead := List.head?_dropWhile_not isIdle pieces
  rw [← hidle, List.head?_append, hpiece] at hhead
  simpa using hhead

theorem infix_of_suffix (h : kept <:+ pieces) :
    dropIdleEnd (kept.dropWhile isIdle) <:+: pieces :=
  (isPrefix_dropIdleEnd _).isInfix.trans ((List.dropWhile_suffix isIdle).trans h).isInfix

theorem exists_rest_eq (p : Path) (n : Nat) : ∃ kept, p.rest (n + 1) = ofPieces kept ∧
    kept <:+: p.pieces ∧ (∀ piece ∈ kept.head?, isIdle piece = false) ∧
    body kept = p.components.drop (n + 1) := by
  obtain ⟨first, others, hp⟩ := p.exists_pieces_eq
  rw [hp]
  -- The root and a leading dot count as a component, although their piece is idle.
  cases hfirst : isIdle first with
  | true =>
      have hleft := (dropComponents_suffix n others).trans (List.suffix_cons first others)
      refine ⟨_, ?_, infix_of_suffix hleft, head_dropIdleEnd _, ?_⟩
      · simp [rest, hp, hfirst]
      rw [body_dropIdleEnd, body_dropWhile_isIdle, body_dropComponents]
      rcases components_of_isIdle hp hfirst with ⟨hnil, rfl⟩ | ⟨x, -, hcons⟩
      · rw [hnil, List.drop_nil]
        exact List.drop_nil
      · rw [hcons, List.drop_succ_cons]
  | false =>
      have hleft := dropComponents_suffix (n + 1) (first :: others)
      refine ⟨_, ?_, infix_of_suffix hleft, head_dropIdleEnd _, ?_⟩
      · simp [rest, hp, hfirst]
      rw [body_dropIdleEnd, body_dropWhile_isIdle, body_dropComponents,
        components_of_not_isIdle hp hfirst]

theorem components_rest (p : Path) (n : Nat) : (p.rest n).components = p.components.drop n := by
  cases n with
  | zero => exact p.components_trimEnd
  | succ n =>
      obtain ⟨kept, heq, hinfix, hhead, hbody⟩ := p.exists_rest_eq n
      rw [heq, components_ofPieces (slash_notMem_of_infix_pieces hinfix) hhead, hbody]

theorem infix_rest (p : Path) (n : Nat) : (p.rest n).bytes <:+: p.bytes := by
  cases n with
  | zero => exact p.infix_trimEnd
  | succ n =>
      obtain ⟨kept, heq, hinfix, -, -⟩ := p.exists_rest_eq n
      rw [heq]
      exact infix_ofPieces hinfix

end Rest

section Join

theorem components_join (hroot : root.isEmpty = false) (hp : p.isAbsolute = false) :
    (root.join p).components = root.components ++ body p.pieces := by
  have hbytes := bytes_join hroot hp
  have hempty : (root.join p).isEmpty = false := by
    rw [isEmpty, hbytes]
    simp
  have hpieces : (root.join p).pieces = root.stem ++ p.pieces := by
    rw [pieces, hbytes, Text.splitOn_append]
    rfl
  rw [components_eq_partsOf hempty, hpieces, partsOf_append (stem_ne_nil root),
    ← components_eq hroot]

theorem join_of_isEmpty (h : root.isEmpty = true) : root.join p = p := by
  rw [isEmpty, List.isEmpty_iff] at h
  rw [join, h]
  split <;> rfl

theorem components_ne_nil (h : p.isEmpty = false) : p.components ≠ [] := by
  rw [components_eq h]
  cases hstem : p.stem with
  | nil => exact absurd hstem (stem_ne_nil p)
  | cons first others => exact List.ne_nil_of_length_pos (by rw [length_partsOf]; omega)

theorem components_join_rest (h : root.components <+: p.components) :
    (root.join (p.rest root.components.length)).components = p.components := by
  cases hroot : root.isEmpty with
  | true =>
      have hnil : root.components = [] := by rw [components, ← isEmpty, if_pos hroot]
      rw [join_of_isEmpty hroot, components_rest, hnil]
      rfl
  | false =>
      have htake : root.components = p.components.take root.components.length :=
        List.prefix_iff_eq_take.mp h
      cases hlength : root.components.length with
      | zero => exact absurd (List.length_eq_zero_iff.mp hlength) (components_ne_nil hroot)
      | succ n =>
          obtain ⟨kept, heq, hinfix, hhead, hbody⟩ := p.exists_rest_eq n
          have hslash := slash_notMem_of_infix_pieces hinfix
          rw [heq, components_join hroot (isAbsolute_ofPieces hslash hhead),
            body_pieces_ofPieces hslash, hbody, htake, hlength, List.take_append_drop]

end Join

end Path

end EntityGraph
