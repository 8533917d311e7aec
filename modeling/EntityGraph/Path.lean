import EntityGraph.Text.Split
import EntityGraph.Text.Utf8
/-!
Paths: byte texts whose parts are divided by `/`. A path is compared by its components; what is left
of it after a base is taken away keeps its own spelling.
-/

namespace EntityGraph

abbrev Name := List UInt8

structure Path where
  bytes : List UInt8
  deriving DecidableEq, Repr

inductive PathPart where
  | root
  | here
  | parent
  | name (n : Name)
  deriving DecidableEq, Repr

namespace Path

def slash : UInt8 := 0x2F
def dot : UInt8 := 0x2E

def isName (n : Name) : Bool :=
  !(n.isEmpty || n.contains slash || n.contains 0 || n == [dot] || n == [dot, dot])

def ofString (s : String) : Path := ⟨Utf8.ofString s⟩

def display (p : Path) : String := Utf8.toStringLossy p.bytes

def text? (p : Path) : Option String := (Utf8.decode? p.bytes).map String.ofList

def isAbsolute (p : Path) : Bool := p.bytes.head? == some slash

def isEmpty (p : Path) : Bool := p.bytes.isEmpty

def pieces (p : Path) : List Name := Text.splitOn slash p.bytes

def isIdle (piece : Name) : Bool := piece.isEmpty || piece == [dot]

def partOfPiece (piece : Name) : PathPart :=
  if piece = [dot, dot] then .parent else .name piece

def body (pieces : List Name) : List PathPart :=
  (pieces.filter (!isIdle ·)).map partOfPiece

/-- A leading slash is the root, a leading dot stands for itself, and any other empty piece or lone
dot stands for nothing. -/
def components (p : Path) : List PathPart :=
  if p.bytes.isEmpty then []
  else
    match p.pieces with
    | [] => []
    | first :: rest =>
        if first.isEmpty then .root :: body rest
        else if first = [dot] then .here :: body rest
        else body (first :: rest)

def ofPieces (pieces : List Name) : Path := ⟨Text.joinWith [slash] pieces⟩

def dropIdleEnd (pieces : List Name) : List Name :=
  (pieces.reverse.dropWhile isIdle).reverse

def dropComponents : Nat → List Name → List Name
  | 0, pieces => pieces
  | _ + 1, [] => []
  | n + 1, piece :: pieces =>
      if isIdle piece then dropComponents (n + 1) pieces else dropComponents n pieces

/-- Drops idle pieces at the end, but neither the root nor a leading dot. -/
def trimEnd (p : Path) : Path :=
  match p.pieces with
  | [] => p
  | first :: rest =>
      match dropIdleEnd rest with
      | [] => if first.isEmpty && !p.isEmpty then ⟨[slash]⟩ else ⟨first⟩
      | kept => ofPieces (first :: kept)

def rest (p : Path) (n : Nat) : Path :=
  match n with
  | 0 => p.trimEnd
  | n + 1 =>
      match p.pieces with
      | [] => p
      | first :: others =>
          let left := if isIdle first then dropComponents n others else dropComponents (n + 1) p.pieces
          ofPieces (dropIdleEnd (left.dropWhile isIdle))

def relativeTo? (p base : Path) : Option Path :=
  if base.components.isPrefixOf p.components then some (p.rest base.components.length) else none

def fileName? (p : Path) : Option Name :=
  match p.components.getLast? with
  | some (.name n) => some n
  | _ => none

def parent? (p : Path) : Option Path :=
  match p.components.getLast? with
  | none | some .root => none
  | some .here => some ⟨[]⟩
  | some _ =>
      match dropIdleEnd p.pieces with
      | [] => some ⟨[]⟩
      | kept =>
          match kept.dropLast with
          | [] => some ⟨[]⟩
          | [[]] => some ⟨[slash]⟩
          | above => some (ofPieces above).trimEnd

def join (base p : Path) : Path :=
  if p.isAbsolute then p
  else
    match base.bytes.getLast? with
    | none => p
    | some last =>
        if last = slash then ⟨base.bytes ++ p.bytes⟩ else ⟨base.bytes ++ slash :: p.bytes⟩

def joinName (base : Path) (n : Name) : Path := base.join ⟨n⟩

def withFileName (p : Path) (n : Name) : Path :=
  match p.fileName? with
  | none => p.joinName n
  | some _ => ((p.parent?).getD ⟨[]⟩).joinName n

def extension? (p : Path) : Option (List UInt8) :=
  match p.fileName? with
  | none => none
  | some n =>
      match n.reverse.span (· != dot) with
      | (_, []) => none
      | (ending, _ :: stem) => if stem.isEmpty then none else some ending.reverse

def backslashesToSlashes (s : String) : String :=
  String.ofList (s.toList.map fun c => if c = '\\' then '/' else c)

inductive RelativeError where
  | outside (path root : Path)
  | notUtf8
  deriving DecidableEq, Repr

def RelativeError.message : RelativeError → String
  | .outside path root =>
      "File path '" ++ path.display ++ "' is not within source root '" ++ root.display ++ "'"
  | .notUtf8 => "Path contains invalid UTF-8"

def relativeText (path root : Path) : Except RelativeError String :=
  match path.relativeTo? root with
  | none => .error (.outside path root)
  | some p =>
      match p.text? with
      | none => .error .notUtf8
      | some s => .ok s

def displayBelow (path root : Path) : String :=
  match relativeText path root with
  | .ok s => s
  | .error _ => backslashesToSlashes path.display

/-- A source file has the extension, whatever the case of its ASCII letters; dots before the
extension are not part of it. -/
def isSourceFile (p : Path) (extension : String) : Bool :=
  match p.extension? with
  | none => false
  | some ending =>
      match Utf8.decode? ending with
      | none => false
      | some cs => cs.map Char.toLower == ((extension.toList.dropWhile (· = '.')).map Char.toLower)

end Path

end EntityGraph
