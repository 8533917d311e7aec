import EntityGraph.Json

namespace EntityGraph.Json

def quote (written : List Char) : List Char :=
  '"' :: written ++ ['"']

def newline (level : Nat) : List Char :=
  '\n' :: List.replicate (2 * level) ' '

def ofBool (b : Bool) : List Char :=
  if b then "true".toList else "false".toList

mutual

def pretty (level : Nat) : Json → List Char
  | .null => "null".toList
  | .bool b => ofBool b
  | .number written => written
  | .text written => quote written
  | .array [] => ['[', ']']
  | .array (j :: js) =>
      '[' :: newline (level + 1) ++ pretty (level + 1) j ++ prettyItems (level + 1) js ++
        newline level ++ [']']
  | .object [] => ['{', '}']
  | .object (m :: ms) =>
      '{' :: newline (level + 1) ++ quote m.1 ++ [':', ' '] ++ pretty (level + 1) m.2 ++
        prettyMembers (level + 1) ms ++ newline level ++ ['}']

def prettyItems (level : Nat) : List Json → List Char
  | [] => []
  | j :: js => ',' :: newline level ++ pretty level j ++ prettyItems level js

def prettyMembers (level : Nat) : List (List Char × Json) → List Char
  | [] => []
  | m :: ms =>
      ',' :: newline level ++ quote m.1 ++ [':', ' '] ++ pretty level m.2 ++ prettyMembers level ms

end

mutual

def compact : Json → List Char
  | .null => "null".toList
  | .bool b => ofBool b
  | .number written => written
  | .text written => quote written
  | .array [] => ['[', ']']
  | .array (j :: js) => '[' :: compact j ++ compactItems js ++ [']']
  | .object [] => ['{', '}']
  | .object (m :: ms) => '{' :: quote m.1 ++ ':' :: compact m.2 ++ compactMembers ms ++ ['}']

def compactItems : List Json → List Char
  | [] => []
  | j :: js => ',' :: compact j ++ compactItems js

def compactMembers : List (List Char × Json) → List Char
  | [] => []
  | m :: ms => ',' :: quote m.1 ++ ':' :: compact m.2 ++ compactMembers ms

end

def prettyText (j : Json) : String := String.ofList (pretty 0 j)

def compactText (j : Json) : String := String.ofList (compact j)

end EntityGraph.Json
