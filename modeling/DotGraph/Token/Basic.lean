/-!
# Tokens
-/

namespace DotGraph

inductive TokenKind
  | identifier
  | numeral
  | string
  | html
  | arrow
  | line
  | leftBrace
  | rightBrace
  | leftBracket
  | rightBracket
  | equals
  | comma
  | semicolon
  | colon
  | plus
  | endOfInput
  deriving DecidableEq

namespace TokenKind

def name : TokenKind → String
  | .identifier => "IDENT"
  | .numeral => "NUMERAL"
  | .string => "STRING"
  | .html => "HTML"
  | .arrow => "ARROW"
  | .line => "LINE"
  | .leftBrace => "LBRACE"
  | .rightBrace => "RBRACE"
  | .leftBracket => "LBRACKET"
  | .rightBracket => "RBRACKET"
  | .equals => "EQUALS"
  | .comma => "COMMA"
  | .semicolon => "SEMICOLON"
  | .colon => "COLON"
  | .plus => "PLUS"
  | .endOfInput => "EOF"

/-- The kinds of token that can stand where a name or a value is wanted. -/
def isId : TokenKind → Bool
  | .identifier | .numeral | .string | .html => true
  | _ => false

def isEdgeOperator : TokenKind → Bool
  | .arrow | .line => true
  | _ => false

def ofPunctuation? : Char → Option TokenKind
  | '{' => some .leftBrace
  | '}' => some .rightBrace
  | '[' => some .leftBracket
  | ']' => some .rightBracket
  | '=' => some .equals
  | ',' => some .comma
  | ';' => some .semicolon
  | ':' => some .colon
  | '+' => some .plus
  | _ => none

end TokenKind

/-- A token with its decoded text and the offset at which its lexeme starts. -/
structure Token where
  kind : TokenKind
  text : String
  offset : Nat
  deriving DecidableEq

inductive Keyword
  | strict
  | graph
  | digraph
  | subgraph
  | node
  | edge
  deriving DecidableEq

namespace Keyword

def all : List Keyword := [.strict, .graph, .digraph, .subgraph, .node, .edge]

def name : Keyword → String
  | .strict => "strict"
  | .graph => "graph"
  | .digraph => "digraph"
  | .subgraph => "subgraph"
  | .node => "node"
  | .edge => "edge"

/-- The keyword a word spells, in any mixture of upper and lower case. Keywords hold ASCII letters
only, and no other letter has one of theirs as its lower case form. -/
def ofWord? (word : String) : Option Keyword :=
  all.find? fun keyword => keyword.name.toList == word.toList.map Char.toLower

theorem ofWord?_name (keyword : Keyword) : ofWord? keyword.name = some keyword := by
  cases keyword <;> decide

end Keyword

/-- Only a bare word can be a keyword; a quoted one never is. -/
def Token.keyword? (token : Token) : Option Keyword :=
  if token.kind = .identifier then Keyword.ofWord? token.text else none

end DotGraph
