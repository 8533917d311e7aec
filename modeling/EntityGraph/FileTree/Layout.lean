import EntityGraph.FileTree.Access

namespace EntityGraph.FileTree

variable (t : FileTree)

def writeInside (p : Path) (content : List UInt8) : FileTree × Except FileError Unit :=
  match t.makeDirectories ((p.parent?).getD ⟨[]⟩) with
  | (t', .ok ()) =>
      match t'.write p content with
      | .ok t'' => (t'', .ok ())
      | .error e => (t', .error e)
  | r => r

def makeLink (p target : Path) : Except FileError FileTree :=
  if 0 ∈ target.bytes then .error .zeroByte
  else if target.isEmpty then .error .notFound
  else t.create p (.link target)

def Entry.withRights (rights : Rights) : Entry → Entry
  | .directory _ => .directory rights
  | .file _ content => .file rights content
  | e => e

def setRights (p : Path) (rights : Rights) : Except FileError FileTree := do
  match ← t.locate p with
  | (loc, .file _ content) => .ok (t.change loc rights content)
  | (loc, e) => .ok (t.put loc (Entry.withRights rights e))

def remove (p : Path) : Except FileError FileTree := do
  let loc ← t.place p
  match t.find? loc with
  | none => .error .notFound
  | some _ => if t.mayChange loc then .ok (t.erase loc) else .error .denied

def seenBelow : Nat → Location → Path → List Path
  | 0, _, _ => []
  | fuel + 1, loc, above =>
      match t.find? loc with
      | some (.directory rights) =>
          if rights.read then
            (t.children loc).flatMap fun c =>
              let p := above.joinName c.1
              if c.2.isDirectory then
                ⟨p.bytes ++ [Path.slash]⟩ ::
                  if rights.search then seenBelow fuel (c.1 :: loc) p else []
              else [p]
          else []
      | _ => []

def seen : List String :=
  ((t.seenBelow (t.entries.length + 1) t.working ⟨[]⟩).map Path.display).mergeSort
    fun a b => a ≤ b

end EntityGraph.FileTree
