import EntityGraph.Json.Printer
import EntityGraph.Json.Range
import EntityGraph.Proofs.JsonString

namespace EntityGraph.Json

theorem skipBlanks_of_not_blank {c : Char} (h : isBlank c = false) (cs : List Char) :
    skipBlanks (c :: cs) = c :: cs := by
  simp [skipBlanks, h]

theorem skipBlanks_newline (level : Nat) (cs : List Char) :
    skipBlanks (newline level ++ cs) = skipBlanks cs := by
  have hblank : ∀ c ∈ newline level, isBlank c = true := by
    intro c hc
    rcases List.mem_cons.mp hc with rfl | hc
    · rfl
    · rw [List.eq_of_mem_replicate hc]
      rfl
  exact List.dropWhile_append_of_pos hblank

inductive Textual : Json → Prop where
  | text (cs : List Char) : Textual (.text (escape cs))
  | array {items : List Json} (h : ∀ j ∈ items, Textual j) : Textual (.array items)
  | object {members : List (List Char × Json)} (hname : ∀ m ∈ members, ∃ cs, m.1 = escape cs)
      (h : ∀ m ∈ members, Textual m.2) : Textual (.object members)

theorem Textual.pretty_eq_cons {j : Json} (h : Textual j) (level : Nat) :
    ∃ c cs, pretty level j = c :: cs ∧ (c = '"' ∨ c = '[' ∨ c = '{') := by
  cases h with
  | text cs => exact ⟨_, _, rfl, .inl rfl⟩
  | @array items h =>
      cases items with
      | nil => exact ⟨_, _, rfl, .inr (.inl rfl)⟩
      | cons j js => exact ⟨_, _, rfl, .inr (.inl rfl)⟩
  | @object members hname h =>
      cases members with
      | nil => exact ⟨_, _, rfl, .inr (.inr rfl)⟩
      | cons m ms => exact ⟨_, _, rfl, .inr (.inr rfl)⟩

theorem Textual.skipBlanks_pretty {j : Json} (h : Textual j) (level : Nat) (rest : List Char) :
    skipBlanks (pretty level j ++ rest) = pretty level j ++ rest := by
  obtain ⟨c, cs, hc, hopen⟩ := h.pretty_eq_cons level
  have hblank : isBlank c = false := by
    rcases hopen with rfl | rfl | rfl <;> rfl
  rw [hc]
  exact skipBlanks_of_not_blank hblank _

section Steps

variable {fuel : Nat} {cs rest more name afterColon : List Char} {j : Json}

theorem value_text (written rest : List Char) (h : quoted cs = some (written, rest)) :
    value (fuel + 1) ('"' :: cs) = some (.text written, rest) := by
  rw [value, h]
  rfl

theorem value_array_nil : value (fuel + 1) ('[' :: ']' :: rest) = some (.array [], rest) := by
  rw [value, skipBlanks_of_not_blank rfl]
  rfl

theorem value_array (h : ∀ more, skipBlanks cs ≠ ']' :: more) :
    value (fuel + 1) ('[' :: cs) =
      (items fuel (skipBlanks cs)).map fun r => (.array r.1, r.2) := by
  rw [value]
  split
  · rename_i more hmore
    exact absurd hmore (h more)
  · rfl

theorem value_object_nil : value (fuel + 1) ('{' :: '}' :: rest) = some (.object [], rest) := by
  rw [value, skipBlanks_of_not_blank rfl]
  rfl

theorem value_object (h : ∀ more, skipBlanks cs ≠ '}' :: more) :
    value (fuel + 1) ('{' :: cs) =
      (members fuel (skipBlanks cs)).map fun r => (.object r.1, r.2) := by
  rw [value]
  split
  · rename_i more hmore
    exact absurd hmore (h more)
  · rfl

theorem items_last (hvalue : value fuel cs = some (j, rest))
    (hrest : skipBlanks rest = ']' :: more) : items (fuel + 1) cs = some ([j], more) := by
  simp only [items, hvalue, hrest]

theorem items_more (hvalue : value fuel cs = some (j, rest))
    (hrest : skipBlanks rest = ',' :: more) :
    items (fuel + 1) cs = (items fuel (skipBlanks more)).map fun r => (j :: r.1, r.2) := by
  simp only [items, hvalue, hrest]

theorem members_last (hname : quoted cs = some (name, ':' :: afterColon))
    (hvalue : value fuel (skipBlanks afterColon) = some (j, rest))
    (hrest : skipBlanks rest = '}' :: more) :
    members (fuel + 1) ('"' :: cs) = some ([(name, j)], more) := by
  have hcolon := skipBlanks_of_not_blank (c := ':') rfl afterColon
  simp only [members, hname, hcolon, hvalue, hrest]

theorem members_more (hname : quoted cs = some (name, ':' :: afterColon))
    (hvalue : value fuel (skipBlanks afterColon) = some (j, rest))
    (hrest : skipBlanks rest = ',' :: more) :
    members (fuel + 1) ('"' :: cs) =
      (members fuel (skipBlanks more)).map fun r => ((name, j) :: r.1, r.2) := by
  have hcolon := skipBlanks_of_not_blank (c := ':') rfl afterColon
  simp only [members, hname, hcolon, hvalue, hrest]

end Steps

/-- Twice the length of the printed value is fuel enough to read it back. -/
def ReadsBack (level : Nat) (j : Json) : Prop :=
  ∀ fuel rest, 2 * (pretty level j).length ≤ fuel →
    value fuel (pretty level j ++ rest) = some (j, rest)

theorem items_pretty {level : Nat} {close rest : List Char} (hclose : skipBlanks close = ']' :: rest)
    {js : List Json} : ∀ (j : Json) (fuel : Nat), (∀ i ∈ j :: js, Textual i) →
      (∀ i ∈ j :: js, ReadsBack level i) →
      2 * ((pretty level j).length + (prettyItems level js).length) < fuel →
      items fuel (pretty level j ++ (prettyItems level js ++ close)) = some (j :: js, rest) := by
  induction js with
  | nil =>
      intro j fuel _ hread hfuel
      obtain ⟨fuel, rfl⟩ := Nat.exists_eq_add_one_of_ne_zero (n := fuel) (by omega)
      have hvalue := hread j (by simp) fuel close (by omega)
      exact items_last hvalue hclose
  | cons next js ih =>
      intro j fuel htext hread hfuel
      obtain ⟨fuel, rfl⟩ := Nat.exists_eq_add_one_of_ne_zero (n := fuel) (by omega)
      rw [prettyItems] at hfuel ⊢
      simp only [List.length_cons, List.length_append] at hfuel
      have hvalue := hread j (by simp) fuel
        (',' :: newline level ++ pretty level next ++ prettyItems level js ++ close) (by omega)
      have hcomma := skipBlanks_of_not_blank (c := ',') rfl
        (newline level ++ pretty level next ++ prettyItems level js ++ close)
      have hnext : Textual next := htext next (by simp)
      have htail := ih next fuel (fun i hi => htext i (List.mem_cons_of_mem _ hi))
        (fun i hi => hread i (List.mem_cons_of_mem _ hi)) (by omega)
      rw [items_more hvalue hcomma, List.append_assoc, List.append_assoc, skipBlanks_newline,
        hnext.skipBlanks_pretty, htail]
      rfl

def prettyMember (level : Nat) (m : List Char × Json) : List Char :=
  quote m.1 ++ ([':', ' '] ++ pretty level m.2)

theorem prettyMembers_cons (level : Nat) (m : List Char × Json) (ms : List (List Char × Json)) :
    prettyMembers level (m :: ms) =
      ',' :: (newline level ++ (prettyMember level m ++ prettyMembers level ms)) := by
  simp [prettyMembers, prettyMember]

theorem skipBlanks_prettyMember (level : Nat) (m : List Char × Json) (rest : List Char) :
    skipBlanks (prettyMember level m ++ rest) = prettyMember level m ++ rest :=
  skipBlanks_of_not_blank rfl _

theorem length_pretty_le_prettyMember (level : Nat) (m : List Char × Json) :
    (pretty level m.2).length ≤ (prettyMember level m).length := by
  simp only [prettyMember, List.length_append, List.length_cons]
  omega

theorem prettyMember_reads {level : Nat} {m : List Char × Json} (fuel : Nat) (rest : List Char)
    (hname : ∃ cs, m.1 = escape cs) (htext : Textual m.2) (hread : ReadsBack level m.2)
    (hfuel : 2 * (prettyMember level m).length ≤ fuel) :
    ∃ cs afterColon, prettyMember level m ++ rest = '"' :: cs ∧
      quoted cs = some (m.1, ':' :: afterColon) ∧
      value fuel (skipBlanks afterColon) = some (m.2, rest) := by
  obtain ⟨name, hname⟩ := hname
  have hlength := length_pretty_le_prettyMember level m
  refine ⟨m.1 ++ '"' :: ':' :: ' ' :: (pretty level m.2 ++ rest),
    ' ' :: (pretty level m.2 ++ rest), ?_, ?_, ?_⟩
  · simp [prettyMember, quote]
  · rw [hname]
    exact quoted_escape name _
  · have hblank : skipBlanks (' ' :: (pretty level m.2 ++ rest)) = pretty level m.2 ++ rest :=
      htext.skipBlanks_pretty level rest
    rw [hblank]
    exact hread fuel rest (by omega)

theorem members_pretty {level : Nat} {close rest : List Char}
    (hclose : skipBlanks close = '}' :: rest) {ms : List (List Char × Json)} :
    ∀ (m : List Char × Json) (fuel : Nat), (∀ i ∈ m :: ms, ∃ cs, i.1 = escape cs) →
      (∀ i ∈ m :: ms, Textual i.2) → (∀ i ∈ m :: ms, ReadsBack level i.2) →
      2 * ((prettyMember level m).length + (prettyMembers level ms).length) < fuel →
      members fuel (prettyMember level m ++ (prettyMembers level ms ++ close)) =
        some (m :: ms, rest) := by
  induction ms with
  | nil =>
      intro m fuel hname htext hread hfuel
      obtain ⟨fuel, rfl⟩ := Nat.exists_eq_add_one_of_ne_zero (n := fuel) (by omega)
      obtain ⟨cs, afterColon, hcs, hquoted, hvalue⟩ := prettyMember_reads fuel close
        (hname m (by simp)) (htext m (by simp)) (hread m (by simp)) (by omega)
      rw [prettyMembers, List.nil_append, hcs]
      exact members_last hquoted hvalue hclose
  | cons next ms ih =>
      intro m fuel hname htext hread hfuel
      obtain ⟨fuel, rfl⟩ := Nat.exists_eq_add_one_of_ne_zero (n := fuel) (by omega)
      rw [prettyMembers_cons] at hfuel ⊢
      simp only [List.length_cons, List.length_append] at hfuel
      obtain ⟨cs, afterColon, hcs, hquoted, hvalue⟩ := prettyMember_reads fuel
        (',' :: (newline level ++ (prettyMember level next ++ prettyMembers level ms)) ++ close)
        (hname m (by simp)) (htext m (by simp)) (hread m (by simp)) (by omega)
      have hcomma := skipBlanks_of_not_blank (c := ',') rfl
        (newline level ++ (prettyMember level next ++ prettyMembers level ms) ++ close)
      have htail := ih next fuel (fun i hi => hname i (List.mem_cons_of_mem _ hi))
        (fun i hi => htext i (List.mem_cons_of_mem _ hi))
        (fun i hi => hread i (List.mem_cons_of_mem _ hi)) (by omega)
      rw [hcs, members_more hquoted hvalue hcomma, List.append_assoc, List.append_assoc,
        skipBlanks_newline, skipBlanks_prettyMember, htail]
      rfl

theorem skipBlanks_close (level : Nat) (bracket : Char) (h : isBlank bracket = false)
    (rest : List Char) : skipBlanks (newline level ++ bracket :: rest) = bracket :: rest := by
  rw [skipBlanks_newline, skipBlanks_of_not_blank h]

theorem readsBack_text (cs : List Char) (level : Nat) : ReadsBack level (.text (escape cs)) := by
  intro fuel rest hfuel
  have hlength : 0 < (pretty level (.text (escape cs))).length := by simp [pretty, quote]
  obtain ⟨fuel, rfl⟩ := Nat.exists_eq_add_one_of_ne_zero (n := fuel) (by omega)
  have hprinted : pretty level (.text (escape cs)) ++ rest = '"' :: (escape cs ++ '"' :: rest) := by
    simp [pretty, quote]
  rw [hprinted]
  exact value_text _ _ (quoted_escape cs rest)

theorem readsBack_array_nil (level : Nat) : ReadsBack level (.array []) := by
  intro fuel rest hfuel
  have hlength : (pretty level (.array [])).length = 2 := rfl
  obtain ⟨fuel, rfl⟩ := Nat.exists_eq_add_one_of_ne_zero (n := fuel) (by omega)
  exact value_array_nil

theorem readsBack_object_nil (level : Nat) : ReadsBack level (.object []) := by
  intro fuel rest hfuel
  have hlength : (pretty level (.object [])).length = 2 := rfl
  obtain ⟨fuel, rfl⟩ := Nat.exists_eq_add_one_of_ne_zero (n := fuel) (by omega)
  exact value_object_nil

theorem readsBack_array {j : Json} {js : List Json} (htext : ∀ i ∈ j :: js, Textual i)
    (level : Nat) (hread : ∀ i ∈ j :: js, ReadsBack (level + 1) i) :
    ReadsBack level (.array (j :: js)) := by
  intro fuel rest hfuel
  have hprinted : pretty level (.array (j :: js)) ++ rest =
      '[' :: (newline (level + 1) ++ (pretty (level + 1) j ++
        (prettyItems (level + 1) js ++ (newline level ++ ']' :: rest)))) := by
    simp [pretty]
  have hlength : (pretty (level + 1) j).length + (prettyItems (level + 1) js).length + 1 <
      (pretty level (.array (j :: js))).length := by
    simp only [pretty, List.length_cons, List.length_append, newline]
    omega
  obtain ⟨fuel, rfl⟩ := Nat.exists_eq_add_one_of_ne_zero (n := fuel) (by omega)
  have hfirst : Textual j := htext j (by simp)
  have hskip : skipBlanks (newline (level + 1) ++ (pretty (level + 1) j ++
      (prettyItems (level + 1) js ++ (newline level ++ ']' :: rest)))) =
      pretty (level + 1) j ++ (prettyItems (level + 1) js ++ (newline level ++ ']' :: rest)) := by
    rw [skipBlanks_newline, hfirst.skipBlanks_pretty]
  have hitems := items_pretty (skipBlanks_close level ']' rfl rest) j fuel htext hread (by omega)
  rw [hprinted, value_array, hskip, hitems]
  · rfl
  · intro more hmore
    obtain ⟨c, cs, hc, hopen⟩ := hfirst.pretty_eq_cons (level + 1)
    rw [hskip, hc, List.cons_append, List.cons.injEq] at hmore
    rw [hmore.1] at hopen
    exact absurd hopen (by decide)

theorem readsBack_object {m : List Char × Json} {ms : List (List Char × Json)}
    (hname : ∀ i ∈ m :: ms, ∃ cs, i.1 = escape cs) (htext : ∀ i ∈ m :: ms, Textual i.2)
    (level : Nat) (hread : ∀ i ∈ m :: ms, ReadsBack (level + 1) i.2) :
    ReadsBack level (.object (m :: ms)) := by
  intro fuel rest hfuel
  have hprinted : pretty level (.object (m :: ms)) ++ rest =
      '{' :: (newline (level + 1) ++ (prettyMember (level + 1) m ++
        (prettyMembers (level + 1) ms ++ (newline level ++ '}' :: rest)))) := by
    simp [pretty, prettyMember]
  have hlength :
      (prettyMember (level + 1) m).length + (prettyMembers (level + 1) ms).length + 1 <
        (pretty level (.object (m :: ms))).length := by
    simp only [pretty, prettyMember, List.length_cons, List.length_append]
    omega
  obtain ⟨fuel, rfl⟩ := Nat.exists_eq_add_one_of_ne_zero (n := fuel) (by omega)
  have hskip : skipBlanks (newline (level + 1) ++ (prettyMember (level + 1) m ++
      (prettyMembers (level + 1) ms ++ (newline level ++ '}' :: rest)))) =
      prettyMember (level + 1) m ++
        (prettyMembers (level + 1) ms ++ (newline level ++ '}' :: rest)) := by
    rw [skipBlanks_newline, skipBlanks_prettyMember]
  have hmembers := members_pretty (skipBlanks_close level '}' rfl rest) m fuel hname htext hread
    (by omega)
  rw [hprinted, value_object, hskip, hmembers]
  · rfl
  · intro more hmore
    rw [hskip, prettyMember, quote, List.append_assoc, List.append_assoc, List.cons_append,
      List.cons.injEq] at hmore
    exact absurd hmore.1 (by decide)

theorem Textual.readsBack {j : Json} (h : Textual j) : ∀ level, ReadsBack level j := by
  induction h with
  | text cs => exact readsBack_text cs
  | @array items htext ih =>
      cases items with
      | nil => exact readsBack_array_nil
      | cons j js =>
          intro level
          exact readsBack_array htext level fun i hi => ih i hi (level + 1)
  | @object members hname htext ih =>
      cases members with
      | nil => exact readsBack_object_nil
      | cons m ms =>
          intro level
          exact readsBack_object hname htext level fun i hi => ih i hi (level + 1)

theorem Textual.read_pretty {j : Json} (h : Textual j) : read (pretty 0 j) = some j := by
  have hskip := h.skipBlanks_pretty 0 []
  have hvalue := h.readsBack 0 (2 * (pretty 0 j).length + 2) [] (by omega)
  rw [List.append_nil] at hskip hvalue
  rw [read, hskip, hvalue]
  rfl

theorem textual_ofString (s : String) : Textual (ofString s) :=
  .text s.toList

theorem textual_array_map {α : Type} {write : α → Json} (h : ∀ x, Textual (write x)) (l : List α) :
    Textual (.array (l.map write)) := by
  apply Textual.array
  intro j hj
  obtain ⟨x, -, rfl⟩ := List.mem_map.mp hj
  exact h x

theorem textual_ofStrings (l : List String) : Textual (ofStrings l) :=
  textual_array_map textual_ofString l

theorem textual_ofMembers {l : List (String × Json)} (h : ∀ m ∈ l, Textual m.2) :
    Textual (ofMembers l) := by
  apply Textual.object
  · intro i hi
    obtain ⟨m, -, rfl⟩ := List.mem_map.mp hi
    exact ⟨m.1.toList, rfl⟩
  · intro i hi
    obtain ⟨m, hm, rfl⟩ := List.mem_map.mp hi
    exact h m hm

theorem depthItems_le {n : Nat} {items : List Json} (h : ∀ j ∈ items, depth j ≤ n) :
    depthItems items ≤ n := by
  induction items with
  | nil => exact Nat.zero_le n
  | cons j items ih =>
      have hj := h j (by simp)
      have hitems := ih fun i hi => h i (List.mem_cons_of_mem _ hi)
      rw [depthItems]
      omega

theorem depthMembers_le {n : Nat} {members : List (List Char × Json)}
    (h : ∀ m ∈ members, depth m.2 ≤ n) : depthMembers members ≤ n := by
  induction members with
  | nil => exact Nat.zero_le n
  | cons m members ih =>
      have hm := h m (by simp)
      have hmembers := ih fun i hi => h i (List.mem_cons_of_mem _ hi)
      rw [depthMembers]
      omega

theorem depth_ofString (s : String) : depth (ofString s) = 0 := rfl

theorem depth_array_map {α : Type} {write : α → Json} {n : Nat} (h : ∀ x, depth (write x) ≤ n)
    (l : List α) : depth (.array (l.map write)) ≤ n + 1 := by
  have hitems : depthItems (l.map write) ≤ n := by
    apply depthItems_le
    intro j hj
    obtain ⟨x, -, rfl⟩ := List.mem_map.mp hj
    exact h x
  rw [depth]
  omega

theorem depth_ofStrings (l : List String) : depth (ofStrings l) ≤ 1 :=
  depth_array_map (fun s => Nat.le_of_eq (depth_ofString s)) l

theorem depth_ofMembers {n : Nat} {l : List (String × Json)} (h : ∀ m ∈ l, depth m.2 ≤ n) :
    depth (ofMembers l) ≤ n + 1 := by
  have hmembers : depthMembers (l.map fun m => (escape m.1.toList, m.2)) ≤ n := by
    apply depthMembers_le
    intro i hi
    obtain ⟨m, hm, rfl⟩ := List.mem_map.mp hi
    exact h m hm
  rw [ofMembers, depth]
  omega

theorem readableItems_of_forall {items : List Json} (h : ∀ j ∈ items, readable j = true) :
    readableItems items = true := by
  induction items with
  | nil => rfl
  | cons j items ih =>
      have hj := h j (by simp)
      have hitems := ih fun i hi => h i (List.mem_cons_of_mem _ hi)
      rw [readableItems, hj, hitems]
      rfl

theorem readableMembers_of_forall {members : List (List Char × Json)}
    (hname : ∀ m ∈ members, ∃ cs, m.1 = escape cs) (h : ∀ m ∈ members, readable m.2 = true) :
    readableMembers members = true := by
  induction members with
  | nil => rfl
  | cons m members ih =>
      obtain ⟨cs, hcs⟩ := hname m (by simp)
      have hm := h m (by simp)
      have hmembers := ih (fun i hi => hname i (List.mem_cons_of_mem _ hi))
        fun i hi => h i (List.mem_cons_of_mem _ hi)
      rw [readableMembers, hcs, unescape_escape, hm, hmembers]
      rfl

theorem Textual.readable_eq {j : Json} (h : Textual j) : readable j = true := by
  induction h with
  | text cs =>
      rw [readable, unescape_escape]
      rfl
  | array _ ih => exact readableItems_of_forall ih
  | object hname _ ih => exact readableMembers_of_forall hname ih

theorem Textual.isSound {j : Json} (h : Textual j) (hdepth : j.depth ≤ depthLimit) :
    j.isSound = true := by
  rw [Json.isSound, h.readable_eq, decide_eq_true hdepth]
  rfl

end EntityGraph.Json
