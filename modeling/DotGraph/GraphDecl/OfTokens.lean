import DotGraph.Reader.Body

/-!
# Reading graph declarations

A text is a sequence of declarations. It is cut into tokens as a whole before any of them is read.
-/

namespace DotGraph

namespace Reader

def graphKind? : Keyword → Option GraphKind
  | .graph => some .graph
  | .digraph => some .digraph
  | _ => none

/-- A declaration from its keyword on. -/
def graphDecl (strict : Bool) : Reader GraphDecl := do
  let kind ← accept (fun token => token.keyword?.bind graphKind?) .expectedGraph
  let id ← bodyOpening
  let children ← body
  expect .rightBrace
  return ⟨kind, strict, id, children⟩

theorem takes_graphDecl (strict : Bool) : Takes 1 (graphDecl strict) :=
  (takes_accept _ _).bind_of_first fun _ =>
    takes_bodyOpening.weaken.bind_of_next fun _ => takes_body.bind_of_next fun _ =>
      (takes_expect _).weaken.bind_of_next fun _ => takes_pure _

def declaration : Reader GraphDecl := do
  if (← inspect nextKeyword?) = some .strict then
    expect .identifier
    graphDecl true
  else graphDecl false

theorem takes_declaration : Takes 1 declaration :=
  (takes_inspect _).bind_of_next fun _ => by
    split
    · exact (takes_expect _).bind_of_first fun _ => (takes_graphDecl true).weaken
    · exact takes_graphDecl false

def declarations : Reader (List GraphDecl) :=
  repeatWhile (· != .endOfInput) declaration takes_declaration

end Reader

/-- The error at the offending token; past the last token it is at the end of the text. -/
def Rejection.toSyntaxError (source : String) (rejection : Rejection) : SyntaxError :=
  .ofOffset source ((rejection.rest.head?.map Token.offset).getD source.length) rejection.reason

def GraphDecl.parse (source : String) : Except SyntaxError (List GraphDecl) :=
  match Token.tokenize source with
  | .error error => .error error
  | .ok tokens =>
    match Reader.declarations.run tokens with
    | .error rejection => .error (rejection.toSyntaxError source)
    | .ok (decls, _) => .ok decls

end DotGraph
