import EntityGraph.FileTree.Resolve
/-!
What can be done with files by their paths. An operation that fails leaves the tree as it is, but for
`makeDirectories`, which may have made some of them.
-/

namespace EntityGraph.FileTree

variable (t : FileTree)

def locate (p : Path) : Except FileError (Location × Entry) := do
  let loc ← t.resolve p
  match t.find? loc with
  | some e => .ok (loc, e)
  | none => .error .notFound

def isDirectoryPath (p : Path) : Bool :=
  match t.locate p with
  | .ok (_, e) => e.isDirectory
  | .error _ => false

def openDirectory (p : Path) : Except FileError Location := do
  match ← t.locate p with
  | (loc, .directory rights) => if rights.read then .ok loc else .error .denied
  | _ => .error .notDirectory

def list (p : Path) : Except FileError (List (Name × Entry)) :=
  (t.openDirectory p).map t.children

def read (p : Path) : Except FileError (List UInt8) := do
  match ← t.locate p with
  | (_, .file rights content) => if rights.read then .ok content else .error .denied
  | (_, .directory rights) => if rights.read then .error .isDirectory else .error .denied
  | _ => .error .notFound

def readText (p : Path) : Except FileError (List Char) := do
  match Utf8.decode? (← t.read p) with
  | some text => .ok text
  | none => .error .notUtf8

def mayChange : Location → Bool
  | [] => false
  | _ :: above =>
      match t.find? above with
      | some (.directory rights) => rights.write
      | _ => false

def write (p : Path) (content : List UInt8) : Except FileError FileTree := do
  let loc ← t.resolve p
  match t.find? loc with
  | none =>
      if t.mayChange loc then .ok (t.put loc (.file fileRights content)) else .error .denied
  | some (.file rights _) =>
      if rights.write then .ok (t.change loc rights content) else .error .denied
  | some _ => .error .isDirectory

def create (p : Path) (e : Entry) : Except FileError FileTree := do
  let loc ← t.place p
  match t.find? loc with
  | some _ => .error .alreadyExists
  | none => if t.mayChange loc then .ok (t.put loc e) else .error .denied

def makeDirectory (p : Path) : Except FileError FileTree :=
  t.create p (.directory allRights)

def ensureDirectory (p : Path) : FileTree × Except FileError Unit :=
  match t.makeDirectory p with
  | .ok t' => (t', .ok ())
  | .error e => if t.isDirectoryPath p then (t, .ok ()) else (t, .error e)

/-- Makes the first of the directories, each of which stands in the next. -/
def makeChain (t : FileTree) : List Path → FileTree × Except FileError Unit
  | [] => (t, .ok ())
  | p :: above =>
      match t.makeDirectory p with
      | .error .notFound =>
          match makeChain t above with
          | (t', .ok ()) => t'.ensureDirectory p
          | r => r
      | _ => t.ensureDirectory p

def ancestors : Nat → Path → List Path
  | 0, _ => []
  | fuel + 1, p =>
      if p.isEmpty then []
      else p :: match p.parent? with
        | none => []
        | some above => ancestors fuel above

def makeDirectories (p : Path) : FileTree × Except FileError Unit :=
  makeChain t (ancestors (p.bytes.length + 1) p)

/-- The path ends in a step that is no name, so that it cannot be renamed to. -/
def endsInDot (p : Path) : Bool :=
  match p.steps.getLast? with
  | none => true
  | some s => s == [Path.dot] || s == [Path.dot, Path.dot]

def moveEntry (here there : Location) (e : Entry) : FileTree :=
  if e.isFile then (t.addName here there).erase here else (t.put there e).erase here

def rename (source target : Path) : Except FileError FileTree := do
  let here ← t.place source
  let there ← t.place target
  if endsInDot target then .error .busy
  else
    match t.find? here with
    | none => .error .notFound
    | some e =>
        if target.endsInSlash then .error .notDirectory
        else if t.sameFile here there then .ok t
        else if !(t.mayChange here && t.mayChange there) then .error .denied
        else if t.isDirectory there then .error .isDirectory
        else .ok (t.moveEntry here there e)

def unlink (p : Path) : Except FileError FileTree := do
  let loc ← t.place p
  match t.find? loc with
  | none => .error .notFound
  | some e =>
      if !t.mayChange loc then .error .denied
      else if e.isDirectory then .error .isDirectory
      else .ok (t.erase loc)

end EntityGraph.FileTree
