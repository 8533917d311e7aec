namespace EntityGraph.Text

def occursIn (needle : List Char) : List Char → Bool
  | [] => needle.isEmpty
  | c :: cs => needle.isPrefixOf (c :: cs) || occursIn needle cs

theorem occursIn_iff {needle : List Char} :
    ∀ {cs : List Char}, occursIn needle cs = true ↔ needle <:+: cs := by
  intro cs
  induction cs with
  | nil => simp [occursIn]
  | cons c cs ih => simp [occursIn, ih, List.infix_cons_iff]

def stripStart? : List Char → List Char → Option (List Char)
  | [], cs => some cs
  | _ :: _, [] => none
  | a :: start, c :: cs => if a = c then stripStart? start cs else none

theorem stripStart?_eq_some_iff {start cs rest : List Char} :
    stripStart? start cs = some rest ↔ cs = start ++ rest := by
  induction start generalizing cs with
  | nil => simp [stripStart?]
  | cons a start ih =>
      cases cs with
      | nil => simp [stripStart?]
      | cons c cs =>
          simp only [stripStart?]
          split
          · rename_i h; simp [ih, h]
          · rename_i h; simp [Ne.symm h]

def afterLast (separator : List Char) : List Char → Option (List Char)
  | [] => none
  | c :: cs =>
      match afterLast separator cs with
      | some rest => some rest
      | none => stripStart? separator (c :: cs)

def splitOn {α : Type} [DecidableEq α] (separator : α) : List α → List (List α)
  | [] => [[]]
  | c :: cs =>
      if c = separator then [] :: splitOn separator cs
      else
        match splitOn separator cs with
        | [] => [[c]]
        | part :: parts => (c :: part) :: parts

theorem splitOn_ne_nil {α : Type} [DecidableEq α] (separator : α) (cs : List α) :
    splitOn separator cs ≠ [] := by
  cases cs with
  | nil => simp [splitOn]
  | cons c cs =>
      simp only [splitOn]
      split
      · simp
      · split <;> simp

theorem not_mem_of_mem_splitOn {α : Type} [DecidableEq α] {separator : α} :
    ∀ {cs part : List α}, part ∈ splitOn separator cs → separator ∉ part := by
  intro cs
  induction cs with
  | nil => intro part h; simp [splitOn] at h; simp [h]
  | cons c cs ih =>
      intro part h
      simp only [splitOn] at h
      split at h
      · rcases List.mem_cons.mp h with h | h
        · simp [h]
        · exact ih h
      · rename_i hc
        cases hs : splitOn separator cs with
        | nil => exact absurd hs (splitOn_ne_nil separator cs)
        | cons first rest =>
            rw [hs] at h
            rcases List.mem_cons.mp h with h | h
            · subst h
              have := ih (hs ▸ List.mem_cons_self : first ∈ splitOn separator cs)
              simp [this, Ne.symm hc]
            · exact ih (hs ▸ List.mem_cons_of_mem _ h)

def joinWith {α : Type} (separator : List α) : List (List α) → List α
  | [] => []
  | [part] => part
  | part :: parts => part ++ separator ++ joinWith separator parts

theorem joinWith_splitOn {α : Type} [DecidableEq α] (separator : α) (cs : List α) :
    joinWith [separator] (splitOn separator cs) = cs := by
  induction cs with
  | nil => rfl
  | cons c cs ih =>
      simp only [splitOn]
      cases hs : splitOn separator cs with
      | nil => exact absurd hs (splitOn_ne_nil separator cs)
      | cons part parts =>
          rw [hs] at ih
          split
          · rename_i hc
            simp [joinWith, ih, hc]
          · cases parts with
            | nil => simpa [joinWith] using ih
            | cons q qs => simpa [joinWith] using ih

def join (separator : String) (parts : List String) : String :=
  String.ofList (joinWith separator.toList (parts.map String.toList))

end EntityGraph.Text
