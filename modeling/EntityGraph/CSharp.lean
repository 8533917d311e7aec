import EntityGraph.CSharp.Grammar.Declaration
import EntityGraph.CSharp.Lexer
import EntityGraph.Extraction

namespace EntityGraph

namespace CSharp

open Grammar in
def rule (self : Grammar) : Goal → Parser Node
  | .type inExpression => type self inExpression
  | .expression level lambdas => expressionAt self level lambdas
  | .initializer => Grammar.initializer self
  | .pattern => pattern self
  | .block => block self
  | .statement => statementHere self
  | .attributes => attributes self
  | .parameters => parameterList self
  | .declaration => declarationHere self
  | .declarationList => declarationList self
  | .item => itemHere self

def grammar : Nat → Grammar
  | 0 => fun _ => failure
  | fuel + 1 => rule (grammar fuel)

def placed (t : Node) : List Node → List Node
  | [] => [t]
  | n :: ns => if t.stop ≤ n.start then t :: n :: ns else n :: placed t ns

mutual

def withTrivia (t : Node) : Node → Node
  | ⟨kind, role, start, stop, children⟩ =>
      ⟨kind, role, start, stop, (withTriviaAmong t children).getD (placed t children)⟩

def withTriviaAmong (t : Node) : List Node → Option (List Node)
  | [] => none
  | n :: ns =>
      if n.start ≤ t.start && t.stop ≤ n.stop then some (withTrivia t n :: ns)
      else (withTriviaAmong t ns).map (n :: ·)

end

def triviaNode (t : Token) : Node :=
  ⟨if t.kind = .comment then .comment else .preprocessor, none, t.start, t.stop, []⟩

structure Parsed where
  tree : Node
  damaged : Bool

def fuelFor (tokens : Nat) : Nat := 8 * tokens + 64

def parse (text : List Char) : Parsed :=
  let all := tokens text
  let (trivia, proper) := all.partition Token.isTrivia
  match Grammar.unit (grammar (fuelFor proper.length)) ⟨proper, proper.length, 0, false, false⟩ with
  | some (tree, s) =>
      ⟨trivia.foldl (fun tree t => withTrivia (triviaNode t) tree) tree, s.damaged⟩
  | none => ⟨⟨.unit, none, 0, 0, []⟩, true⟩

end CSharp

structure ReadSource where
  declarations : List Declaration
  damaged : Bool

def readSource (text : List Char) : ReadSource :=
  let p := CSharp.parse text
  ⟨p.tree.declarations (Utf8.encode text).toArray, p.damaged⟩

end EntityGraph
