import EntityGraph.FileTree

namespace EntityGraph

inductive FileError where
  | notFound
  | denied
  | busy
  | alreadyExists
  | notDirectory
  | isDirectory
  | nameTooLong
  | tooManyLinks
  | zeroByte
  | notUtf8
  deriving DecidableEq, Repr

def FileError.message : FileError → String
  | .notFound => "No such file or directory (os error 2)"
  | .denied => "Permission denied (os error 13)"
  | .busy => "Device or resource busy (os error 16)"
  | .alreadyExists => "File exists (os error 17)"
  | .notDirectory => "Not a directory (os error 20)"
  | .isDirectory => "Is a directory (os error 21)"
  | .nameTooLong => "File name too long (os error 36)"
  | .tooManyLinks => "Too many levels of symbolic links (os error 40)"
  | .zeroByte => "file name contained an unexpected NUL byte"
  | .notUtf8 => "stream did not contain valid UTF-8"

namespace Path

def steps (p : Path) : List Name := p.pieces.filter (!·.isEmpty)

def endsInSlash (p : Path) : Bool := p.bytes.getLast? == some slash

end Path

namespace FileTree

def linkLimit : Nat := 40

def pathLimit : Nat := 4096

/-- Names that are still to be followed. A closing slash asks for a directory at the end. -/
structure Route where
  steps : List Name
  slash : Bool

def Route.through (target : Path) (rest : Route) : Route :=
  ⟨target.steps ++ rest.steps, rest.slash || (rest.steps.isEmpty && target.endsInSlash)⟩

def startOf (loc : Location) (p : Path) : Location := if p.isAbsolute then [] else loc

variable (t : FileTree)

/-- Follows steps from a location. Links are left to `onLink`, but for a last one that is not to be
followed. -/
def followSteps (followLast : Bool) (onLink : Location → Path → Route → Except FileError Location)
    (slash : Bool) : Location → List Name → Except FileError Location
  | loc, [] => .ok loc
  | loc, s :: rest =>
      match t.find? loc with
      | some (.directory rights) =>
          if !rights.search then .error .denied
          else if s = [Path.dot] then followSteps followLast onLink slash loc rest
          else if s = [Path.dot, Path.dot] then followSteps followLast onLink slash loc.tail rest
          else if nameLimit < s.length then .error .nameTooLong
          else
            match t.find? (s :: loc) with
            | none =>
                if rest.isEmpty && !slash && isEntryName s then .ok (s :: loc) else .error .notFound
            | some (.directory _) => followSteps followLast onLink slash (s :: loc) rest
            | some (.file ..) =>
                if rest.isEmpty && !slash then .ok (s :: loc) else .error .notDirectory
            | some (.link target) =>
                if rest.isEmpty && !slash && !followLast then .ok (s :: loc)
                else onLink loc target ⟨rest, slash⟩
      | _ => .error .notDirectory

def follow (followLast : Bool) : Nat → Location → Route → Except FileError Location
  | 0, loc, r => followSteps t followLast (fun _ _ _ => .error .tooManyLinks) r.slash loc r.steps
  | links + 1, loc, r =>
      followSteps t followLast
        (fun loc target rest =>
          follow followLast links (startOf loc target) (Route.through target rest))
        r.slash loc r.steps

/-- The location that a path leads to. Nothing need stand there, but its directory does. -/
def resolveAs (followLast slash : Bool) (p : Path) : Except FileError Location :=
  if 0 ∈ p.bytes then .error .zeroByte
  else if p.isEmpty then .error .notFound
  else if pathLimit ≤ p.bytes.length then .error .nameTooLong
  else follow t followLast linkLimit (startOf t.working p) ⟨p.steps, slash⟩

def resolve (p : Path) : Except FileError Location :=
  resolveAs t true p.endsInSlash p

/-- The place of an entry itself, be it a link. Closing slashes do not count. -/
def place (p : Path) : Except FileError Location :=
  resolveAs t false false p

end FileTree

end EntityGraph
