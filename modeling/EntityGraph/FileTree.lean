import EntityGraph.FileTree.Entries

namespace EntityGraph

/-- Files of the same number are one file under several names. -/
structure FileTree where
  entries : FileTree.Entries
  numbers : FileTree.Numbers
  working : Location
  closed : FileTree.Closed entries
  shared : FileTree.Shared entries numbers

namespace FileTree

def find? (t : FileTree) (loc : Location) : Option Entry :=
  lookup loc t.entries

def number? (t : FileTree) (loc : Location) : Option Nat :=
  lookup loc t.numbers

def isDirectory (t : FileTree) (loc : Location) : Bool :=
  isDirectoryAt loc t.entries

def sameFile (t : FileTree) (x y : Location) : Bool :=
  sameNumber t.numbers x y

def put (t : FileTree) (loc : Location) (e : Entry) : FileTree :=
  if h : admits t.entries loc e = true then
    { t with
      entries := set loc e t.entries
      numbers := unset loc t.numbers
      closed := closed_set t.closed h
      shared := shared_set t.shared }
  else t

theorem find?_put {t : FileTree} {loc : Location} {e : Entry}
    (h : admits t.entries loc e = true) (other : Location) :
    (t.put loc e).find? other = if other = loc then some e else t.find? other := by
  unfold put find?
  rw [dif_pos h]
  exact lookup_set loc other e t.entries

theorem number?_put {t : FileTree} {loc : Location} {e : Entry}
    (h : admits t.entries loc e = true) (other : Location) :
    (t.put loc e).number? other = if other = loc then none else t.number? other := by
  unfold put number?
  rw [dif_pos h]
  exact lookup_unset loc other t.numbers

def erase (t : FileTree) (loc : Location) : FileTree :=
  { t with
    entries := without loc t.entries
    numbers := without loc t.numbers
    closed := closed_without t.closed
    shared := shared_without t.shared }

theorem find?_erase (t : FileTree) (loc other : Location) :
    (t.erase loc).find? other = if loc.isSuffixOf other then none else t.find? other :=
  lookup_without loc other t.entries

def change (t : FileTree) (loc : Location) (rights : Rights) (content : List UInt8) : FileTree :=
  { t with
    entries := t.entries.map fun x => (x.1, changed t.numbers loc rights content x.1 x.2)
    closed := closed_changed t.closed
    shared := shared_changed t.shared }

theorem find?_change {t : FileTree} {loc : Location} {rights old : Rights}
    {content bytes : List UInt8} (h : t.find? loc = some (.file old bytes)) (x : Location) :
    (t.change loc rights content).find? x =
      if t.sameFile loc x then some (.file rights content) else t.find? x := by
  have hfile : t.sameFile loc x = true → t.find? x = some (.file old bytes) := by
    intro hsame
    rcases sameNumber_iff.mp hsame with rfl | ⟨n, hloc, hx⟩
    · exact h
    · exact (t.shared.same x loc n hx hloc).trans h
  unfold change find? at *
  rw [lookup_map]
  unfold changed sameFile at *
  split
  · rename_i hsame
    rw [hfile hsame]
    simp [hsame, Entry.isFile]
  · rename_i hsame
    cases lookup x t.entries <;> simp [hsame]

def addName (t : FileTree) (here there : Location) : FileTree :=
  match hhere : t.find? here with
  | some (.file rights content) =>
      if hthere : admits t.entries there (.file rights content) = true then
        { t with
          entries := set there (.file rights content) t.entries
          numbers := shareNumber here there t.numbers
          closed := closed_set t.closed hthere
          shared := shared_shareNumber t.shared hhere }
      else t
  | _ => t

section AddName

variable {t : FileTree} {here there : Location} {rights : Rights} {content : List UInt8}
  (hhere : t.find? here = some (.file rights content))
  (hthere : admits t.entries there (.file rights content) = true)
include hhere hthere

theorem addName_eq : t.addName here there =
    { t with
      entries := set there (.file rights content) t.entries
      numbers := shareNumber here there t.numbers
      closed := closed_set t.closed hthere
      shared := shared_shareNumber t.shared hhere } := by
  unfold addName
  split
  · rename_i r bytes hfile
    rw [hhere] at hfile
    cases hfile
    rw [dif_pos hthere]
  · rename_i hnot
    exact absurd hhere (hnot rights content)

theorem find?_addName (x : Location) : (t.addName here there).find? x =
    if x = there then some (.file rights content) else t.find? x := by
  rw [addName_eq hhere hthere]
  exact lookup_set there x _ t.entries

theorem number?_addName (x : Location) : (t.addName here there).number? x =
    if x = there ∨ x = here then some (numberFor t.numbers here) else t.number? x := by
  rw [addName_eq hhere hthere]
  exact lookup_shareNumber here there x t.numbers

theorem working_addName : (t.addName here there).working = t.working := by
  rw [addName_eq hhere hthere]

end AddName

def insertName (n : Name) : List Name → List Name
  | [] => [n]
  | m :: rest =>
      if n < m then n :: m :: rest else if n = m then m :: rest else m :: insertName n rest

def nameBelow? (loc : Location) : Location → Option Name
  | [] => none
  | n :: above => if above = loc then some n else none

def names (t : FileTree) (loc : Location) : List Name :=
  (t.entries.filterMap fun e => nameBelow? loc e.1).foldr insertName []

def children (t : FileTree) (loc : Location) : List (Name × Entry) :=
  (t.names loc).filterMap fun n => (t.find? (n :: loc)).map (n, ·)

def allRights : Rights := ⟨true, true, true⟩

def fileRights : Rights := ⟨true, true, false⟩

def workingName : Name := [0x77, 0x6F, 0x72, 0x6B]

def fresh : FileTree where
  entries := [([], .directory ⟨true, false, true⟩), ([workingName], .directory allRights)]
  numbers := []
  working := [workingName]
  closed := by
    intro name loc h
    simp only [lookup] at h
    split at h
    · rename_i heq
      simp at heq
    · split at h
      · rename_i heq
        simp only [List.cons.injEq] at heq
        obtain ⟨rfl, rfl⟩ := heq
        exact ⟨by decide, rfl⟩
      · simp at h
  shared := ⟨nofun, nofun⟩

end FileTree

end EntityGraph
