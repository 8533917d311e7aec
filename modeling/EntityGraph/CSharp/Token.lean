namespace EntityGraph.CSharp

inductive TokenKind where
  | word
  | literal
  | symbol
  | directive
  | stringOpen
  | holeOpen
  | holeFormat
  | holeClose
  | stringClose
  | comment
  | pragma
  | unknown
  deriving DecidableEq, Repr

structure Token where
  kind : TokenKind
  text : String
  start : Nat
  stop : Nat
  deriving Repr

namespace Token

def isTrivia (t : Token) : Bool :=
  t.kind = .comment || t.kind = .pragma

def isWord (t : Token) (s : String) : Bool :=
  t.kind = .word && t.text == s

def isSymbol (t : Token) (s : String) : Bool :=
  t.kind = .symbol && t.text == s

def isDirective (t : Token) (s : String) : Bool :=
  t.kind = .directive && t.text == s

end Token

def openBrace : String := "\x7b"

def closeBrace : String := "\x7d"

def reservedWords : List String :=
  ["abstract", "as", "base", "bool", "break", "byte", "case", "catch", "char", "checked", "class",
   "const", "continue", "decimal", "default", "delegate", "do", "double", "else", "enum", "event",
   "explicit", "extern", "false", "finally", "fixed", "float", "for", "foreach", "goto", "if",
   "implicit", "in", "int", "interface", "internal", "is", "lock", "long", "namespace", "new", "null",
   "object", "operator", "out", "override", "params", "private", "protected", "public", "readonly",
   "ref", "return", "sbyte", "sealed", "short", "sizeof", "stackalloc", "static", "string", "struct",
   "switch", "this", "throw", "true", "try", "typeof", "uint", "ulong", "unchecked", "unsafe",
   "ushort", "using", "virtual", "void", "volatile", "while"]

def predefinedTypes : List String :=
  ["bool", "byte", "char", "decimal", "double", "float", "int", "long", "object", "sbyte", "short",
   "string", "uint", "ulong", "ushort", "nint", "nuint", "void"]

def modifierWords : List String :=
  ["abstract", "async", "const", "extern", "file", "fixed", "internal", "new", "override", "partial",
   "private", "protected", "public", "readonly", "required", "scoped", "sealed", "static", "unsafe",
   "virtual", "volatile"]

def connectiveWords : List String :=
  ["is", "as", "switch", "with", "and", "or", "when", "in", "select", "where", "orderby", "group",
   "join", "let", "into", "on", "equals", "by", "ascending", "descending", "from"]

namespace Token

def isIdentifier (t : Token) : Bool :=
  t.kind = .word && !reservedWords.contains t.text

def isPredefinedType (t : Token) : Bool :=
  t.kind = .word && predefinedTypes.contains t.text

end Token

end EntityGraph.CSharp
