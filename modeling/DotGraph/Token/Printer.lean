import DotGraph.Token.Basic

/-!
# Writing tokens

A token without its place is a kind and a text. Tokens are written with a space between two; a
string is written between quotes, with its own quotes escaped, and every other token as its text.
-/

namespace DotGraph.Token

def escapeQuote (c : Char) : List Char := if c = '"' then ['\\', '"'] else [c]

def lexeme : TokenKind → String → List Char
  | .string, text => '"' :: text.toList.flatMap escapeQuote ++ ['"']
  | _, text => text.toList

def render : List (TokenKind × String) → List Char
  | [] => []
  | [(kind, text)] => lexeme kind text
  | (kind, text) :: rest => lexeme kind text ++ ' ' :: render rest

end DotGraph.Token
