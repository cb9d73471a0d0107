import DotGraph.Source.Location
import DotGraph.Text.Quoted
import DotGraph.Token.Basic

/-!
# Syntax errors
-/

namespace DotGraph

/-- Why a text is not a description of graphs. -/
inductive Reason
  | unterminatedComment
  | unterminatedString
  | unterminatedHtml
  | unexpectedCharacter (c : Char)
  | expectedGraph
  | expectedStatement
  | expectedIdentifier
  | expectedString
  | expected (kind : TokenKind)
  | subgraphEndpoint
  deriving DecidableEq

def Reason.text : Reason → String
  | .unterminatedComment => "Unterminated comment"
  | .unterminatedString => "Unterminated string literal"
  | .unterminatedHtml => "Unterminated HTML string"
  | .unexpectedCharacter c => "Unexpected character " ++ Text.quoted (String.singleton c)
  | .expectedGraph => "Expected 'graph' or 'digraph'"
  | .expectedStatement => "Expected statement"
  | .expectedIdentifier => "Expected identifier"
  | .expectedString => "Expected quoted string after '+'"
  | .expected kind => "Expected " ++ kind.name
  | .subgraphEndpoint => "Subgraph edge endpoints are not supported"

structure SyntaxError where
  reason : Reason
  offset : Nat
  location : Location
  deriving DecidableEq

namespace SyntaxError

def ofOffset (source : String) (offset : Nat) (reason : Reason) : SyntaxError :=
  ⟨reason, offset, .ofOffset source offset⟩

end SyntaxError

end DotGraph
