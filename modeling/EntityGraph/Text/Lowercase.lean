import EntityGraph.Text.Identifier
import EntityGraph.Text.Lowercase.Table
/-!
Full lower casing. Every character maps by the table; U+0130 becomes two characters; and a capital
sigma at the end of a word becomes the final sigma.
-/

namespace EntityGraph.Text

namespace Lowercase

def Run.covers (r : Run) (n : Nat) : Bool :=
  r.first ≤ n && n ≤ r.last && (n - r.first) % r.step == 0

def isCased (c : Char) : Bool :=
  inRanges casedRanges c

def isIgnorable (c : Char) : Bool :=
  inRanges ignorableRanges c

def reachesCased : List Char → Bool
  | [] => false
  | c :: cs => if isIgnorable c then reachesCased cs else isCased c

def ofChar (c : Char) : List Char :=
  if c.toNat < 0x80 then [c.toLower]
  else if c.toNat = 0x130 then ['i', '\u0307']
  else
    match runs.find? (·.covers c.toNat) with
    | some r => [Char.ofNat (c.toNat + r.offset).toNat]
    | none => [c]

/-- Lower-cases the second list, which stands after the reverse of the first. -/
def mapFrom : List Char → List Char → List Char
  | _, [] => []
  | before, c :: cs =>
      let here :=
        if c = 'Σ' then (if reachesCased before && !reachesCased cs then ['ς'] else ['σ'])
        else ofChar c
      here ++ mapFrom (c :: before) cs

end Lowercase

def lowercase (cs : List Char) : List Char :=
  Lowercase.mapFrom [] cs

end EntityGraph.Text
