import EntityGraph.Path
import EntityGraph.Text.Blank

namespace EntityGraph

inductive IgnorePattern where
  | directory (name : String)
  | suffix (ending : String)
  | substring (part : String)
  deriving DecidableEq, Repr

namespace IgnorePattern

def ofChars : List Char → Option IgnorePattern
  | [] => none
  | '#' :: _ => none
  | cs =>
      if cs.getLast? = some '/' then
        let name := Text.trimBy (· = '/') cs.dropLast
        if name.isEmpty then none else some (.directory (String.ofList name))
      else
        match cs with
        | '*' :: ending => some (.suffix (String.ofList ending))
        | _ => some (.substring (String.ofList cs))

def parse (line : String) : Option IgnorePattern :=
  ofChars (Text.trim line.toList)

def hits (path : List Char) : IgnorePattern → Bool
  | .directory name => (Text.splitOn '/' path).any (· = name.toList)
  | .suffix ending => ending.toList.isSuffixOf path
  | .substring part => Text.occursIn part.toList path

/-- The text that patterns are matched against: nothing for a path that is not UTF-8. -/
def subject (p : Path) : List Char :=
  (Path.backslashesToSlashes ((p.text?).getD "")).toList

def lines (cs : List Char) : List (List Char) :=
  let parts := Text.splitOn '\n' cs
  let ended := parts.dropLast.map fun l => if l.getLast? = some '\r' then l.dropLast else l
  match parts.getLast? with
  | none | some [] => ended
  | some last => ended ++ [last]

def parseAll (text : List Char) : List IgnorePattern :=
  (lines text).filterMap fun l => parse (String.ofList l)

end IgnorePattern

def isIgnored (path : Path) (patterns : List IgnorePattern) : Bool :=
  patterns.any (·.hits (IgnorePattern.subject path))

end EntityGraph
