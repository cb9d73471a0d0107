import DotGraph.Statement.Printer

/-!
# Parse trees

The grammar of graph descriptions. A tree holds the tokens it derives and all choices made on the
way; what it derives (`tokens`) and what it means are read off it. Keywords are words in any mixture
of upper and lower case, and a word may stand for a name wherever it is not read as a keyword.
-/

namespace DotGraph

/-- A token of a kind. -/
abbrev Mark (kind : TokenKind) := { token : Token // token.kind = kind }

/-- A word that spells a keyword. -/
abbrev KeywordMark (keyword : Keyword) := { token : Token // token.keyword? = some keyword }

theorem Token.kind_of_keyword? {token : Token} {keyword : Keyword}
    (h : token.keyword? = some keyword) : token.kind = .identifier := by
  unfold keyword? at h
  split at h
  · assumption
  · cases h

/-- A name: `word | numeral | html | string ("+" string)*`. -/
structure NameTree where
  first : { token : Token // token.kind.isId = true }
  others : List (Mark .plus × Mark .string)
  joins : first.1.kind = .string ∨ others = []

namespace NameTree

def tokens (name : NameTree) : List Token :=
  name.first.1 :: name.others.flatMap fun other => [other.1.1, other.2.1]

def text (name : NameTree) : String :=
  name.first.1.text ++ String.join (name.others.map fun other => other.2.1.text)

def keyword? (name : NameTree) : Option Keyword := name.first.1.keyword?

end NameTree

/-- A part of a port: `":" name`. -/
abbrev PartTree := Mark .colon × NameTree

namespace PartTree

def tokens (part : PartTree) : List Token := part.1.1 :: part.2.tokens

def text (part : PartTree) : String := part.2.text

end PartTree

/-- A port: `[":" name [":" name]]`. -/
abbrev PortTree := Option (PartTree × Option PartTree)

namespace PortTree

def parts : PortTree → List PartTree
  | none => []
  | some (first, second) => first :: second.toList

def tokens (port : PortTree) : List Token := port.parts.flatMap PartTree.tokens

/-- The parts with colons between them, if that is a text. -/
def text? (port : PortTree) : Option String :=
  let joined := ":".intercalate (port.parts.map PartTree.text)
  if joined = "" then none else some joined

end PortTree

/-- A node: `name port`. -/
structure RefTree where
  name : NameTree
  port : PortTree

namespace RefTree

def tokens (ref : RefTree) : List Token := ref.name.tokens ++ ref.port.tokens

def value (ref : RefTree) : NodeRef := ⟨ref.name.text, ref.port.text?⟩

end RefTree

/-- An attribute: `name "=" name ["," | ";"]`. -/
structure PairTree where
  key : NameTree
  equals : Mark .equals
  value : NameTree
  separator : Option { token : Token // (token.kind == .comma || token.kind == .semicolon) = true }

namespace PairTree

def tokens (pair : PairTree) : List Token :=
  pair.key.tokens ++ pair.equals.1 :: (pair.value.tokens ++
    (pair.separator.map Subtype.val).toList)

def item (pair : PairTree) : AttrItem := .pair pair.key.text pair.value.text

end PairTree

/-- A list of attributes: `"[" pair* "]"`. -/
structure ListTree where
  opening : Mark .leftBracket
  pairs : List PairTree
  closing : Mark .rightBracket

namespace ListTree

def tokens (list : ListTree) : List Token :=
  list.opening.1 :: (list.pairs.flatMap PairTree.tokens ++ [list.closing.1])

def items (list : ListTree) : List AttrItem := list.pairs.map PairTree.item

end ListTree

/-- A further node of a chain: `("->" | "--") node`, unless the name is the keyword of subgraphs. -/
structure LinkTree where
  operator : { token : Token // token.kind.isEdgeOperator = true }
  target : RefTree
  plain : target.name.keyword? ≠ some .subgraph

namespace LinkTree

def tokens (link : LinkTree) : List Token := link.operator.1 :: link.target.tokens

def value (link : LinkTree) : NodeRef := link.target.value

end LinkTree

/-- A statement that begins with a name: `name "=" name | node link+ list* | node list*`. -/
inductive NamedTree
  | assignment (key : NameTree) (equals : Mark .equals) (value : NameTree)
  | edge (source : RefTree) (link : LinkTree) (links : List LinkTree) (lists : List ListTree)
  | node (ref : RefTree) (lists : List ListTree)

namespace NamedTree

def name : NamedTree → NameTree
  | .assignment key _ _ => key
  | .edge source _ _ _ => source.name
  | .node ref _ => ref.name

def tokens : NamedTree → List Token
  | .assignment key equals value => key.tokens ++ equals.1 :: value.tokens
  | .edge source link links lists =>
    source.tokens ++ ((link :: links).flatMap LinkTree.tokens ++ lists.flatMap ListTree.tokens)
  | .node ref lists => ref.tokens ++ lists.flatMap ListTree.tokens

def statement : NamedTree → Statement
  | .assignment key _ value => .attr .graph [.pair key.text value.text]
  | .edge source link links lists =>
    .edge (source.value :: (link :: links).map LinkTree.value) (lists.flatMap ListTree.items)
  | .node ref lists => .node ref.value (lists.flatMap ListTree.items)

end NamedTree

/-- The keywords that a statement cannot begin with as names. -/
def Keyword.opensStatement : Keyword → Bool
  | .graph | .node | .edge | .subgraph => true
  | .strict | .digraph => false

theorem NameTree.free_of_none {name : NameTree} (none : name.keyword? = none) :
    ∀ keyword, name.keyword? = some keyword → keyword.opensStatement = false := by
  intro keyword spelled
  cases none.symm.trans spelled

/-- A statement other than a subgraph: `(graph | node | edge) list+ | named`. -/
inductive SimpleTree
  | defaults (target : Target) (keyword : KeywordMark (Spelling.targetKeyword target))
      (list : ListTree) (lists : List ListTree)
  | named (tree : NamedTree)
      (free : ∀ keyword, tree.name.keyword? = some keyword → keyword.opensStatement = false)

namespace SimpleTree

def tokens : SimpleTree → List Token
  | .defaults _ keyword list lists => keyword.1 :: (list :: lists).flatMap ListTree.tokens
  | .named tree _ => tree.tokens

def statement : SimpleTree → Statement
  | .defaults target _ list lists => .attr target ((list :: lists).flatMap ListTree.items)
  | .named tree _ => tree.statement

end SimpleTree

/-- What stands before the brace of a subgraph: `[subgraph [name]]`. -/
abbrev SubgraphHead := Option (KeywordMark .subgraph × Option NameTree)

mutual

/-- A statement: `simple | head "{" body "}"`. -/
inductive StatementTree
  | simple (tree : SimpleTree)
  | subgraph (head : SubgraphHead) (opening : Mark .leftBrace) (body : BodyTree)
      (closing : Mark .rightBrace)

/-- A body: `(statement [";"])*`. -/
inductive BodyTree
  | nil
  | cons (statement : StatementTree) (semicolon : Option (Mark .semicolon)) (rest : BodyTree)

end

/-- The tokens of a name that may be absent. -/
def optionalTokens : Option NameTree → List Token
  | none => []
  | some name => name.tokens

namespace SubgraphHead

def tokens : SubgraphHead → List Token
  | none => []
  | some (keyword, name) => keyword.1 :: optionalTokens name

def id (head : SubgraphHead) : Option String := head.bind fun named => named.2.map NameTree.text

end SubgraphHead

def semicolonTokens (semicolon : Option (Mark .semicolon)) : List Token :=
  (semicolon.map Subtype.val).toList

mutual

def StatementTree.tokens : StatementTree → List Token
  | .simple tree => tree.tokens
  | .subgraph head opening body closing =>
    head.tokens ++ opening.1 :: (body.tokens ++ [closing.1])

def BodyTree.tokens : BodyTree → List Token
  | .nil => []
  | .cons statement semicolon rest =>
    statement.tokens ++ (semicolonTokens semicolon ++ rest.tokens)

end

mutual

def StatementTree.statement : StatementTree → Statement
  | .simple tree => tree.statement
  | .subgraph head _ body _ => .subgraph head.id body.statements

def BodyTree.statements : BodyTree → List Statement
  | .nil => []
  | .cons statement _ rest => statement.statement :: rest.statements

end

/-- A declaration: `[strict] (graph | digraph) [name] "{" body "}"`. -/
structure DeclTree where
  strict : Option (KeywordMark .strict)
  kind : GraphKind
  keyword : KeywordMark (GraphDecl.kindKeyword kind)
  name : Option NameTree
  opening : Mark .leftBrace
  body : BodyTree
  closing : Mark .rightBrace

namespace DeclTree

def tokens (tree : DeclTree) : List Token :=
  (tree.strict.map Subtype.val).toList ++ tree.keyword.1 :: (optionalTokens tree.name ++
    tree.opening.1 :: (tree.body.tokens ++ [tree.closing.1]))

def decl (tree : DeclTree) : GraphDecl :=
  ⟨tree.kind, tree.strict.isSome, tree.name.map NameTree.text, tree.body.statements⟩

end DeclTree

/-- The grammar derives declarations from tokens. -/
def Derives (tokens : List Token) (decls : List GraphDecl) : Prop :=
  ∃ trees : List DeclTree, trees.flatMap DeclTree.tokens = tokens ∧
    trees.map DeclTree.decl = decls

end DotGraph
