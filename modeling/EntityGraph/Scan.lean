import EntityGraph.Blake3
import EntityGraph.CSharp
import EntityGraph.FileTree.Access
import EntityGraph.NameIndex

namespace EntityGraph

structure Unreadable where
  path : Path
  cause : FileError
  deriving DecidableEq, Repr

def Unreadable.message (u : Unreadable) : String :=
  "Failed to read " ++ u.path.display ++ ": " ++ u.cause.message

namespace ScannedFile

def textOf (bytes : List UInt8) : List Char :=
  match Utf8.decodeLossy bytes with
  | '\uFEFF' :: rest => rest
  | cs => cs

def ofBytes (root path : Path) (bytes : List UInt8) : ScannedFile :=
  let source := readSource (textOf bytes)
  { path
    relativePath := path.displayBelow root
    contentHash := Blake3.hex bytes
    declarations := source.declarations
    damaged := source.damaged }

def read (t : FileTree) (root path : Path) : Except Unreadable ScannedFile :=
  match t.read path with
  | .ok bytes => .ok (ofBytes root path bytes)
  | .error e => .error ⟨path, e⟩

end ScannedFile

structure Scan where
  files : List ScannedFile
  unreadable : List Unreadable

namespace Scan

def ofFiles (t : FileTree) (root : Path) : List Path → Scan
  | [] => ⟨[], []⟩
  | path :: paths =>
      let rest := ofFiles t root paths
      match ScannedFile.read t root path with
      | .ok f => { rest with files := f :: rest.files }
      | .error u => { rest with unreadable := u :: rest.unreadable }

/-- What stands for a file in the digest of a corpus: its path, a zero byte, its hash and a line
feed. -/
def digestEntry (f : ScannedFile) : List UInt8 :=
  Utf8.ofString f.relativePath ++ 0 :: Utf8.ofString f.contentHash ++ [0x0A]

def digestInput (files : List ScannedFile) : List UInt8 :=
  files.flatMap digestEntry

def digest (files : List ScannedFile) : String :=
  Blake3.hex (digestInput files)

end Scan

end EntityGraph
