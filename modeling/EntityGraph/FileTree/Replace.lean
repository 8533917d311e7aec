import EntityGraph.FileTree.Access

namespace EntityGraph.FileTree

structure ReplaceError where
  path : Path
  cause : FileError
  deriving DecidableEq, Repr

def temporaryEnding : Name := Utf8.ofString ".tmp"

def temporarySibling (p : Path) : Path :=
  p.withFileName ((p.fileName?).getD [] ++ temporaryEnding)

def discard (t : FileTree) (p : Path) : FileTree :=
  match t.unlink p with
  | .ok t' => t'
  | .error _ => t

def makeParent (t : FileTree) (p : Path) : FileTree × Except ReplaceError Unit :=
  match p.parent? with
  | none => (t, .ok ())
  | some above =>
      match t.makeDirectories above with
      | (t', .ok ()) => (t', .ok ())
      | (t', .error e) => (t', .error ⟨above, e⟩)

def moveIn (t : FileTree) (p : Path) (content : List UInt8) : FileTree × Except FileError Unit :=
  match t.write (temporarySibling p) content with
  | .error e => (t, .error e)
  | .ok t' =>
      match t'.rename (temporarySibling p) p with
      | .error e => (t', .error e)
      | .ok t'' => (t'', .ok ())

def replace (t : FileTree) (p : Path) (content : List UInt8) :
    FileTree × Except ReplaceError Unit :=
  match t.makeParent p with
  | (t', .error e) => (t', .error e)
  | (t', .ok ()) =>
      match t'.moveIn p content with
      | (t'', .ok ()) => (t'', .ok ())
      | (t'', .error e) => (t''.discard (temporarySibling p), .error ⟨p, e⟩)

end EntityGraph.FileTree
