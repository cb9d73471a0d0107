import DotGraph.Statement.Basic
import DotGraph.Token.Printer

/-!
# Writing statements

Every id, key, value and port is written as a string, so that none is taken for a keyword or for
anything else. A statement ends with a semicolon. What is no statement of a body is not written.
-/

namespace DotGraph

/-- Tokens without their places. -/
abbrev Spelling := List (TokenKind × String)

namespace Spelling

def name (text : String) : Spelling := [(.string, text)]

def keyword (keyword : Keyword) : Spelling := [(.identifier, keyword.name)]

def optionalName : Option String → Spelling
  | none => []
  | some text => name text

def semicolon : Spelling := [(.semicolon, ";")]

def braced (inside : Spelling) : Spelling :=
  (.leftBrace, "\x7b") :: inside ++ [(.rightBrace, "\x7d")]

def ofItem : AttrItem → Spelling
  | .pair key value => name key ++ (.equals, "=") :: name value
  | .foreign => []

def ofItems (items : List AttrItem) : Spelling :=
  (.leftBracket, "[") :: items.flatMap ofItem ++ [(.rightBracket, "]")]

def ofRef (ref : NodeRef) : Spelling :=
  name ref.id ++
    match ref.port with
    | none => []
    | some port => (.colon, ":") :: name port

def ofChain : List NodeRef → Spelling
  | [] => []
  | [ref] => ofRef ref
  | ref :: refs => ofRef ref ++ (.arrow, "->") :: ofChain refs

def targetKeyword : Target → Keyword
  | .graph => .graph
  | .node => .node
  | .edge => .edge

mutual

def ofStatement : Statement → Spelling
  | .subgraph id children =>
    keyword .subgraph ++ optionalName id ++ braced (ofBody children) ++ semicolon
  | .node ref items => ofRef ref ++ ofItems items ++ semicolon
  | .edge chain items => ofChain chain ++ ofItems items ++ semicolon
  | .attr target items => keyword (targetKeyword target) ++ ofItems items ++ semicolon
  | .graph .. | .foreign _ => []

def ofBody : List Statement → Spelling
  | [] => []
  | statement :: statements => ofStatement statement ++ ofBody statements

end

end Spelling

namespace GraphDecl

def kindKeyword : GraphKind → Keyword
  | .graph => .graph
  | .digraph => .digraph

def spelling (decl : GraphDecl) : Spelling :=
  (if decl.strict then Spelling.keyword .strict else []) ++
    Spelling.keyword (kindKeyword decl.kind) ++ Spelling.optionalName decl.id ++
    Spelling.braced (Spelling.ofBody decl.children)

/-- Declarations as a text. -/
def print (decls : List GraphDecl) : String :=
  String.ofList (Token.render (decls.flatMap spelling))

end GraphDecl

end DotGraph
