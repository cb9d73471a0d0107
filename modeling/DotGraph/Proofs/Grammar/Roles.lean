import DotGraph.Proofs.Grammar.Tree

/-!
# Roles of tokens

Each token of a tree is read as part of a name, as a keyword or as a mark. What a tree means depends
on less than its tokens: a name may be quoted, a keyword written in other letters, a separator left
out and an edge operator turned into the other one, each where a token has the role for it
(`Respelled`). Whatever of this is done to the tokens of trees, they are still those of trees with
the same meaning (`derives_of_respells`).
-/

namespace DotGraph

/-- What a token is read as. -/
inductive Role
  | name
  | keyword
  | mark
  deriving DecidableEq

/-! ### The roles in a tree -/

namespace NameTree

def roles (name : NameTree) : List (Role × Token) :=
  (.name, name.first.1) ::
    name.others.flatMap fun other => [(.mark, other.1.1), (.name, other.2.1)]

@[simp] theorem map_snd_roles (name : NameTree) : name.roles.map Prod.snd = name.tokens := by
  simp [roles, tokens, List.map_flatMap]

end NameTree

namespace PartTree

def roles (part : PartTree) : List (Role × Token) := (.mark, part.1.1) :: part.2.roles

@[simp] theorem map_snd_roles (part : PartTree) : part.roles.map Prod.snd = part.tokens := by
  simp [roles, tokens]

end PartTree

namespace PortTree

def roles (port : PortTree) : List (Role × Token) := port.parts.flatMap PartTree.roles

@[simp] theorem map_snd_roles (port : PortTree) : port.roles.map Prod.snd = port.tokens := by
  simp [roles, tokens, List.map_flatMap]

end PortTree

namespace RefTree

def roles (ref : RefTree) : List (Role × Token) := ref.name.roles ++ ref.port.roles

@[simp] theorem map_snd_roles (ref : RefTree) : ref.roles.map Prod.snd = ref.tokens := by
  simp [roles, tokens]

end RefTree

namespace PairTree

def roles (pair : PairTree) : List (Role × Token) :=
  pair.key.roles ++ (.mark, pair.equals.1) :: (pair.value.roles ++
    (pair.separator.map fun separator => (Role.mark, separator.1)).toList)

@[simp] theorem map_snd_roles (pair : PairTree) : pair.roles.map Prod.snd = pair.tokens := by
  cases separator : pair.separator <;> simp [roles, tokens, separator]

end PairTree

namespace ListTree

def roles (list : ListTree) : List (Role × Token) :=
  (.mark, list.opening.1) :: (list.pairs.flatMap PairTree.roles ++ [(.mark, list.closing.1)])

@[simp] theorem map_snd_roles (list : ListTree) : list.roles.map Prod.snd = list.tokens := by
  simp [roles, tokens, List.map_flatMap]

end ListTree

namespace LinkTree

def roles (link : LinkTree) : List (Role × Token) := (.mark, link.operator.1) :: link.target.roles

@[simp] theorem map_snd_roles (link : LinkTree) : link.roles.map Prod.snd = link.tokens := by
  simp [roles, tokens]

end LinkTree

namespace NamedTree

def roles : NamedTree → List (Role × Token)
  | .assignment key equals value => key.roles ++ (.mark, equals.1) :: value.roles
  | .edge source link links lists =>
    source.roles ++ ((link :: links).flatMap LinkTree.roles ++ lists.flatMap ListTree.roles)
  | .node ref lists => ref.roles ++ lists.flatMap ListTree.roles

@[simp] theorem map_snd_roles (tree : NamedTree) : tree.roles.map Prod.snd = tree.tokens := by
  cases tree <;> simp [roles, tokens, List.map_flatMap]

end NamedTree

namespace SimpleTree

def roles : SimpleTree → List (Role × Token)
  | .defaults _ keyword list lists =>
    (.keyword, keyword.1) :: (list :: lists).flatMap ListTree.roles
  | .named tree _ => tree.roles

@[simp] theorem map_snd_roles (tree : SimpleTree) : tree.roles.map Prod.snd = tree.tokens := by
  cases tree <;> simp [roles, tokens, List.map_flatMap]

end SimpleTree

/-- The roles of the tokens of a name that may be absent. -/
def optionalRoles : Option NameTree → List (Role × Token)
  | none => []
  | some name => name.roles

@[simp] theorem map_snd_optionalRoles (name : Option NameTree) :
    (optionalRoles name).map Prod.snd = optionalTokens name := by
  cases name <;> simp [optionalRoles, optionalTokens]

namespace SubgraphHead

def roles : SubgraphHead → List (Role × Token)
  | none => []
  | some (keyword, name) => (.keyword, keyword.1) :: optionalRoles name

@[simp] theorem map_snd_roles (head : SubgraphHead) : head.roles.map Prod.snd = head.tokens := by
  cases head <;> simp [roles, tokens]

end SubgraphHead

def semicolonRoles (semicolon : Option (Mark .semicolon)) : List (Role × Token) :=
  (semicolon.map fun mark => (Role.mark, mark.1)).toList

@[simp] theorem map_snd_semicolonRoles (semicolon : Option (Mark .semicolon)) :
    (semicolonRoles semicolon).map Prod.snd = semicolonTokens semicolon := by
  cases semicolon <;> rfl

mutual

def StatementTree.roles : StatementTree → List (Role × Token)
  | .simple tree => tree.roles
  | .subgraph head opening body closing =>
    head.roles ++ (.mark, opening.1) :: (body.roles ++ [(.mark, closing.1)])

def BodyTree.roles : BodyTree → List (Role × Token)
  | .nil => []
  | .cons statement semicolon rest =>
    statement.roles ++ (semicolonRoles semicolon ++ rest.roles)

end

mutual

@[simp] theorem StatementTree.map_snd_roles (tree : StatementTree) :
    tree.roles.map Prod.snd = tree.tokens := by
  cases tree with
  | simple tree => simp [StatementTree.roles, StatementTree.tokens]
  | subgraph head opening body closing =>
    simp [StatementTree.roles, StatementTree.tokens, body.map_snd_roles]

@[simp] theorem BodyTree.map_snd_roles (tree : BodyTree) :
    tree.roles.map Prod.snd = tree.tokens := by
  cases tree with
  | nil => rfl
  | cons statement semicolon rest =>
    simp [BodyTree.roles, BodyTree.tokens, statement.map_snd_roles, rest.map_snd_roles]

end

namespace DeclTree

def roles (tree : DeclTree) : List (Role × Token) :=
  (tree.strict.map fun mark => (Role.keyword, mark.1)).toList ++ (.keyword, tree.keyword.1) ::
    (optionalRoles tree.name ++ (.mark, tree.opening.1) ::
      (tree.body.roles ++ [(.mark, tree.closing.1)]))

@[simp] theorem map_snd_roles (tree : DeclTree) : tree.roles.map Prod.snd = tree.tokens := by
  cases strict : tree.strict <;> simp [roles, tokens, strict]

end DeclTree

/-! ### Respelling tokens -/

/-- What may stand for a token in its role and means the same: the token at any place; for a part of
a name, a string of the same text; for a keyword, a word that spells it. Separators and edge
operators are told by their kinds: nothing may stand for the ones, any edge operator for the others.
-/
inductive Respelled : Role → Token → List Token → Prop
  | same {role : Role} {token : Token} (offset : Nat) :
      Respelled role token [⟨token.kind, token.text, offset⟩]
  | quoted {token : Token} (offset : Nat) : token.kind.isId = true →
      Respelled .name token [⟨.string, token.text, offset⟩]
  | recased {token other : Token} : other.keyword? = token.keyword? →
      Respelled .keyword token [other]
  | dropped {role : Role} {token : Token} : token.kind = .comma ∨ token.kind = .semicolon →
      Respelled role token []
  | turned {role : Role} {token other : Token} : token.kind.isEdgeOperator = true →
      other.kind.isEdgeOperator = true → Respelled role token [other]

/-- Tokens that may stand for tokens in their roles, one after another. -/
inductive Respells : List (Role × Token) → List Token → Prop
  | nil : Respells [] []
  | cons {role : Role} {token : Token} {others : List (Role × Token)} {piece tokens : List Token} :
      Respelled role token piece → Respells others tokens →
      Respells ((role, token) :: others) (piece ++ tokens)

theorem Respells.exists_cons {role : Role} {token : Token} {others : List (Role × Token)}
    {tokens : List Token} (respells : Respells ((role, token) :: others) tokens) :
    ∃ piece rest, tokens = piece ++ rest ∧ Respelled role token piece ∧ Respells others rest := by
  cases respells with
  | cons first later => exact ⟨_, _, rfl, first, later⟩

theorem Respells.eq_nil {tokens : List Token} (respells : Respells [] tokens) : tokens = [] := by
  cases respells
  rfl

theorem Respells.exists_append {first second : List (Role × Token)} {tokens : List Token}
    (respells : Respells (first ++ second) tokens) :
    ∃ front back, tokens = front ++ back ∧ Respells first front ∧ Respells second back := by
  induction first generalizing tokens with
  | nil => exact ⟨[], tokens, rfl, .nil, respells⟩
  | cons entry first ih =>
    obtain ⟨piece, rest, rfl, here, later⟩ := respells.exists_cons
    obtain ⟨front, back, rfl, others, last⟩ := ih later
    exact ⟨piece ++ front, back, (List.append_assoc ..).symm, .cons here others, last⟩

theorem Respells.of_singleton {role : Role} {token : Token} {tokens : List Token}
    (respells : Respells [(role, token)] tokens) : Respelled role token tokens := by
  obtain ⟨piece, rest, rfl, here, later⟩ := respells.exists_cons
  rw [later.eq_nil, List.append_nil]
  exact here

/-- The kinds of token that are neither separators nor edge operators. -/
def TokenKind.isFixed : TokenKind → Bool
  | .comma | .semicolon | .arrow | .line => false
  | _ => true

theorem TokenKind.isFixed_of_isId {kind : TokenKind} (isId : kind.isId = true) :
    kind.isFixed = true := by
  cases kind <;> first | rfl | cases isId

theorem TokenKind.isFixed_of_isEdgeOperator {kind : TokenKind}
    (operator : kind.isEdgeOperator = true) : kind.isFixed = false := by
  cases kind <;> first | rfl | cases operator

/-- What is fixed stays one token, of its kind and text unless it is quoted or a keyword. -/
theorem Respelled.of_isFixed {role : Role} {token : Token} {piece : List Token}
    (respelled : Respelled role token piece) (fixed : token.kind.isFixed = true) :
    (∃ offset, piece = [⟨token.kind, token.text, offset⟩]) ∨
      (role = .name ∧ ∃ offset, piece = [⟨.string, token.text, offset⟩]) ∨
      role = .keyword ∧ ∃ other, piece = [other] ∧ other.keyword? = token.keyword? := by
  cases respelled with
  | same offset => exact .inl ⟨offset, rfl⟩
  | quoted offset _ => exact .inr (.inl ⟨rfl, offset, rfl⟩)
  | recased spells => exact .inr (.inr ⟨rfl, _, rfl, spells⟩)
  | dropped separator => rcases separator with kind | kind <;> cases kind ▸ fixed
  | turned operator _ => cases (TokenKind.isFixed_of_isEdgeOperator operator).symm.trans fixed

theorem Respelled.exists_mark {kind : TokenKind} {mark : Mark kind} {piece : List Token}
    (respelled : Respelled .mark mark.1 piece) (fixed : kind.isFixed = true) :
    ∃ other : Mark kind, [other.1] = piece := by
  rw [← mark.2] at fixed
  rcases respelled.of_isFixed fixed with ⟨offset, rfl⟩ | ⟨⟨⟩, -⟩ | ⟨⟨⟩, -⟩
  exact ⟨⟨⟨mark.1.kind, mark.1.text, offset⟩, mark.2⟩, rfl⟩

theorem Respelled.exists_keyword {keyword : Keyword} {mark : KeywordMark keyword}
    {piece : List Token} (respelled : Respelled .keyword mark.1 piece) :
    ∃ other : KeywordMark keyword, [other.1] = piece := by
  have fixed : mark.1.kind.isFixed = true := by
    rw [Token.kind_of_keyword? mark.2]
    rfl
  rcases respelled.of_isFixed fixed with ⟨offset, rfl⟩ | ⟨⟨⟩, -⟩ | ⟨-, other, rfl, spells⟩
  · exact ⟨⟨⟨mark.1.kind, mark.1.text, offset⟩, mark.2⟩, rfl⟩
  · exact ⟨⟨other, spells.trans mark.2⟩, rfl⟩

theorem Respelled.exists_operator {mark : { token : Token // token.kind.isEdgeOperator = true }}
    {piece : List Token} (respelled : Respelled .mark mark.1 piece) :
    ∃ other : { token : Token // token.kind.isEdgeOperator = true }, [other.1] = piece := by
  have operator := mark.2
  cases respelled with
  | same offset => exact ⟨⟨⟨mark.1.kind, mark.1.text, offset⟩, operator⟩, rfl⟩
  | dropped separator => rcases separator with kind | kind <;> cases kind ▸ operator
  | turned _ other => exact ⟨⟨_, other⟩, rfl⟩

/-- A separator stays a separator or is left out. -/
theorem Respells.exists_separator {p : Token → Prop}
    (blind : ∀ {token : Token} {offset : Nat}, p token → p ⟨token.kind, token.text, offset⟩)
    (plain : ∀ {token : Token}, p token → token.kind.isEdgeOperator = false)
    {mark : Option { token : Token // p token }} {tokens : List Token}
    (respells : Respells (mark.map fun mark => (Role.mark, mark.1)).toList tokens) :
    ∃ other : Option { token : Token // p token }, (other.map Subtype.val).toList = tokens := by
  cases mark with
  | none => exact ⟨none, respells.eq_nil.symm⟩
  | some mark =>
    cases respells.of_singleton with
    | same offset => exact ⟨some ⟨_, blind mark.2⟩, rfl⟩
    | dropped _ => exact ⟨none, rfl⟩
    | turned operator _ => cases (plain mark.2).symm.trans operator

/-- Trees of a kind keep their values, one by one. -/
theorem Respells.exists_flatMap {X α : Type} {roles : X → List (Role × Token)}
    {tokens : X → List Token} {value : X → α}
    (each : ∀ (tree : X) {found : List Token}, Respells (roles tree) found →
      ∃ other, tokens other = found ∧ value other = value tree)
    (trees : List X) {found : List Token} (respells : Respells (trees.flatMap roles) found) :
    ∃ others : List X, others.flatMap tokens = found ∧ others.map value = trees.map value := by
  induction trees generalizing found with
  | nil => exact ⟨[], respells.eq_nil.symm, rfl⟩
  | cons tree trees ih =>
    rw [List.flatMap_cons] at respells
    obtain ⟨_, _, rfl, first, later⟩ := respells.exists_append
    obtain ⟨other, rfl, same⟩ := each tree first
    obtain ⟨others, rfl, means⟩ := ih later
    exact ⟨other :: others, rfl, by rw [List.map_cons, List.map_cons, same, means]⟩

/-! ### Trees of respelled tokens -/

/-- A name of the same text, which spells no keyword that the name did not spell. -/
theorem NameTree.exists_respelled (name : NameTree) {found : List Token}
    (respells : Respells name.roles found) :
    ∃ other : NameTree, other.tokens = found ∧ other.text = name.text ∧
      ∀ keyword, other.keyword? = some keyword → name.keyword? = some keyword := by
  obtain ⟨first, others, joins⟩ := name
  -- the strings that are joined to the first one stay strings; the first token may become one
  obtain ⟨piece, rest, rfl, here, later⟩ := respells.exists_cons
  have parts : ∃ more : List (Mark .plus × Mark .string),
      (more.flatMap fun other => [other.1.1, other.2.1]) = rest ∧
        more.map (fun other => other.2.1.text) = others.map fun other => other.2.1.text := by
    refine Respells.exists_flatMap (fun other found respells => ?_) others later
    obtain ⟨_, _, rfl, plus, string⟩ := respells.exists_cons
    obtain ⟨mark, rfl⟩ := plus.exists_mark rfl
    have fixed : other.2.1.kind.isFixed = true := by
      rw [other.2.2]
      rfl
    rcases string.of_singleton.of_isFixed fixed with
      ⟨offset, rfl⟩ | ⟨-, offset, rfl⟩ | ⟨⟨⟩, -⟩
    · exact ⟨(mark, ⟨⟨other.2.1.kind, _, offset⟩, other.2.2⟩), rfl, rfl⟩
    · exact ⟨(mark, ⟨⟨.string, _, offset⟩, rfl⟩), rfl, rfl⟩
  obtain ⟨more, rfl, texts⟩ := parts
  have text (start : String) :
      start ++ String.join (more.map fun other => other.2.1.text) =
        start ++ String.join (others.map fun other => other.2.1.text) := by
    rw [texts]
  have alone (none : others = []) : more = [] := by
    subst none
    exact List.map_eq_nil_iff.mp texts
  rcases here.of_isFixed (TokenKind.isFixed_of_isId first.2) with
    ⟨offset, rfl⟩ | ⟨-, offset, rfl⟩ | ⟨⟨⟩, -⟩
  · exact ⟨⟨⟨⟨first.1.kind, first.1.text, offset⟩, first.2⟩, more, joins.imp_right alone⟩, rfl,
      text _, fun _ spelled => spelled⟩
  · refine ⟨⟨⟨⟨.string, first.1.text, offset⟩, rfl⟩, more, .inl rfl⟩, rfl, text _, ?_⟩
    rintro keyword ⟨⟩

theorem PartTree.exists_respelled (part : PartTree) {found : List Token}
    (respells : Respells part.roles found) :
    ∃ other : PartTree, other.tokens = found ∧ other.text = part.text := by
  obtain ⟨_, _, rfl, colon, later⟩ := respells.exists_cons
  obtain ⟨mark, rfl⟩ := colon.exists_mark rfl
  obtain ⟨name, rfl, text, -⟩ := part.2.exists_respelled later
  exact ⟨(mark, name), rfl, text⟩

theorem PortTree.exists_respelled (port : PortTree) {found : List Token}
    (respells : Respells port.roles found) :
    ∃ other : PortTree, other.tokens = found ∧ other.text? = port.text? := by
  have texts (other : PortTree) (same : other.parts.map PartTree.text =
      port.parts.map PartTree.text) : other.text? = port.text? := by
    unfold text?
    rw [same]
  obtain ⟨parts, rfl, same⟩ := Respells.exists_flatMap PartTree.exists_respelled port.parts respells
  rcases port with _ | ⟨first, _ | second⟩
  · obtain rfl : parts = [] := List.map_eq_nil_iff.mp same
    exact ⟨none, rfl, rfl⟩
  · rcases parts with _ | ⟨part, _ | _⟩
    case cons.nil => exact ⟨some (part, none), rfl, texts _ same⟩
    all_goals exact absurd (congrArg List.length same) (by simp [PortTree.parts])
  · rcases parts with _ | ⟨part, _ | ⟨other, _ | _⟩⟩
    case cons.cons.nil => exact ⟨some (part, some other), rfl, texts _ same⟩
    all_goals exact absurd (congrArg List.length same) (by simp [PortTree.parts])

theorem RefTree.exists_respelled (ref : RefTree) {found : List Token}
    (respells : Respells ref.roles found) :
    ∃ other : RefTree, other.tokens = found ∧ other.value = ref.value ∧
      ∀ keyword, other.name.keyword? = some keyword → ref.name.keyword? = some keyword := by
  obtain ⟨_, _, rfl, first, second⟩ := respells.exists_append
  obtain ⟨name, rfl, text, keywords⟩ := ref.name.exists_respelled first
  obtain ⟨port, rfl, ports⟩ := ref.port.exists_respelled second
  exact ⟨⟨name, port⟩, rfl, by simp only [value, text, ports], keywords⟩

theorem PairTree.exists_respelled (pair : PairTree) {found : List Token}
    (respells : Respells pair.roles found) :
    ∃ other : PairTree, other.tokens = found ∧ other.item = pair.item := by
  obtain ⟨_, _, rfl, first, later⟩ := respells.exists_append
  obtain ⟨_, _, rfl, equals, later⟩ := later.exists_cons
  obtain ⟨_, _, rfl, second, last⟩ := later.exists_append
  obtain ⟨key, rfl, keys, -⟩ := pair.key.exists_respelled first
  obtain ⟨mark, rfl⟩ := equals.exists_mark rfl
  obtain ⟨value, rfl, values, -⟩ := pair.value.exists_respelled second
  obtain ⟨separator, rfl⟩ := Respells.exists_separator id (fun {token} isSeparator => by
    cases kind : token.kind <;> rw [kind] at isSeparator <;> first | rfl | cases isSeparator) last
  exact ⟨⟨key, mark, value, separator⟩, rfl, by simp only [item, keys, values]⟩

theorem ListTree.exists_respelled (list : ListTree) {found : List Token}
    (respells : Respells list.roles found) :
    ∃ other : ListTree, other.tokens = found ∧ other.items = list.items := by
  obtain ⟨_, _, rfl, opening, later⟩ := respells.exists_cons
  obtain ⟨_, _, rfl, inside, closing⟩ := later.exists_append
  obtain ⟨left, rfl⟩ := opening.exists_mark rfl
  obtain ⟨pairs, rfl, items⟩ := Respells.exists_flatMap PairTree.exists_respelled list.pairs inside
  obtain ⟨right, rfl⟩ := closing.of_singleton.exists_mark rfl
  exact ⟨⟨left, pairs, right⟩, rfl, items⟩

theorem Respells.exists_lists (lists : List ListTree) {found : List Token}
    (respells : Respells (lists.flatMap ListTree.roles) found) :
    ∃ others : List ListTree, others.flatMap ListTree.tokens = found ∧
      others.flatMap ListTree.items = lists.flatMap ListTree.items := by
  obtain ⟨others, rfl, items⟩ := Respells.exists_flatMap ListTree.exists_respelled lists respells
  exact ⟨others, rfl, by rw [List.flatMap_def, items, ← List.flatMap_def]⟩

theorem LinkTree.exists_respelled (link : LinkTree) {found : List Token}
    (respells : Respells link.roles found) :
    ∃ other : LinkTree, other.tokens = found ∧ other.value = link.value := by
  obtain ⟨_, _, rfl, first, later⟩ := respells.exists_cons
  obtain ⟨operator, rfl⟩ := first.exists_operator
  obtain ⟨target, rfl, means, keywords⟩ := link.target.exists_respelled later
  exact ⟨⟨operator, target, fun spelled => link.plain (keywords _ spelled)⟩, rfl, means⟩

theorem NamedTree.exists_respelled (tree : NamedTree) {found : List Token}
    (respells : Respells tree.roles found) :
    ∃ other : NamedTree, other.tokens = found ∧ other.statement = tree.statement ∧
      ∀ keyword, other.name.keyword? = some keyword → tree.name.keyword? = some keyword := by
  cases tree with
  | assignment key equals value =>
    obtain ⟨_, _, rfl, first, later⟩ := respells.exists_append
    obtain ⟨_, _, rfl, second, last⟩ := later.exists_cons
    obtain ⟨key', rfl, keys, keywords⟩ := key.exists_respelled first
    obtain ⟨mark, rfl⟩ := second.exists_mark rfl
    obtain ⟨value', rfl, values, -⟩ := value.exists_respelled last
    exact ⟨.assignment key' mark value', rfl, by simp only [statement, keys, values], keywords⟩
  | edge source link links lists =>
    obtain ⟨_, _, rfl, first, later⟩ := respells.exists_append
    obtain ⟨_, _, rfl, second, last⟩ := later.exists_append
    obtain ⟨source', rfl, means, keywords⟩ := source.exists_respelled first
    obtain ⟨chain, rfl, refs⟩ :=
      Respells.exists_flatMap LinkTree.exists_respelled (link :: links) second
    obtain ⟨lists', rfl, items⟩ := Respells.exists_lists lists last
    cases chain with
    | nil => cases refs
    | cons link' links' =>
      refine ⟨.edge source' link' links' lists', rfl, ?_, keywords⟩
      simp only [statement, means, refs, items]
  | node ref lists =>
    obtain ⟨_, _, rfl, first, second⟩ := respells.exists_append
    obtain ⟨ref', rfl, means, keywords⟩ := ref.exists_respelled first
    obtain ⟨lists', rfl, items⟩ := Respells.exists_lists lists second
    exact ⟨.node ref' lists', rfl, by simp only [statement, means, items], keywords⟩

theorem SimpleTree.exists_respelled (tree : SimpleTree) {found : List Token}
    (respells : Respells tree.roles found) :
    ∃ other : SimpleTree, other.tokens = found ∧ other.statement = tree.statement := by
  cases tree with
  | defaults target keyword list lists =>
    obtain ⟨_, _, rfl, first, second⟩ := respells.exists_cons
    obtain ⟨mark, rfl⟩ := first.exists_keyword
    obtain ⟨others, rfl, items⟩ :=
      Respells.exists_flatMap ListTree.exists_respelled (list :: lists) second
    cases others with
    | nil => cases items
    | cons list' lists' =>
      refine ⟨.defaults target mark list' lists', rfl, ?_⟩
      simp only [statement, List.flatMap_def, items]
  | named tree free =>
    obtain ⟨other, rfl, means, keywords⟩ := tree.exists_respelled respells
    exact ⟨.named other fun keyword spelled => free keyword (keywords keyword spelled), rfl, means⟩

theorem Respells.exists_optionalKeyword {keyword : Keyword} (mark : Option (KeywordMark keyword))
    {found : List Token}
    (respells : Respells (mark.map fun mark => (Role.keyword, mark.1)).toList found) :
    ∃ other : Option (KeywordMark keyword), (other.map Subtype.val).toList = found ∧
      other.isSome = mark.isSome := by
  cases mark with
  | none => exact ⟨none, respells.eq_nil.symm, rfl⟩
  | some mark =>
    obtain ⟨other, same⟩ := respells.of_singleton.exists_keyword
    exact ⟨some other, same, rfl⟩

theorem Respells.exists_optionalName (name : Option NameTree) {found : List Token}
    (respells : Respells (optionalRoles name) found) :
    ∃ other : Option NameTree, optionalTokens other = found ∧
      other.map NameTree.text = name.map NameTree.text := by
  cases name with
  | none => exact ⟨none, respells.eq_nil.symm, rfl⟩
  | some name =>
    obtain ⟨other, rfl, text, -⟩ := name.exists_respelled respells
    exact ⟨some other, rfl, congrArg some text⟩

theorem SubgraphHead.exists_respelled (head : SubgraphHead) {found : List Token}
    (respells : Respells head.roles found) :
    ∃ other : SubgraphHead, other.tokens = found ∧ other.id = head.id := by
  rcases head with _ | ⟨keyword, name⟩
  · exact ⟨none, respells.eq_nil.symm, rfl⟩
  · obtain ⟨_, _, rfl, first, second⟩ := respells.exists_cons
    obtain ⟨mark, rfl⟩ := first.exists_keyword
    obtain ⟨other, rfl, text⟩ := Respells.exists_optionalName name second
    exact ⟨some (mark, other), rfl, text⟩

theorem Respells.exists_semicolon (semicolon : Option (Mark .semicolon)) {found : List Token}
    (respells : Respells (semicolonRoles semicolon) found) :
    ∃ other : Option (Mark .semicolon), semicolonTokens other = found :=
  Respells.exists_separator id (fun spelled => by rw [spelled]; rfl) respells

mutual

theorem StatementTree.exists_respelled (tree : StatementTree) {found : List Token}
    (respells : Respells tree.roles found) :
    ∃ other : StatementTree, other.tokens = found ∧ other.statement = tree.statement := by
  cases tree with
  | simple tree =>
    obtain ⟨other, rfl, means⟩ := tree.exists_respelled respells
    exact ⟨.simple other, rfl, means⟩
  | subgraph head opening body closing =>
    obtain ⟨_, _, rfl, first, later⟩ := respells.exists_append
    obtain ⟨_, _, rfl, left, later⟩ := later.exists_cons
    obtain ⟨_, _, rfl, inside, right⟩ := later.exists_append
    obtain ⟨head', rfl, ids⟩ := head.exists_respelled first
    obtain ⟨opening', rfl⟩ := left.exists_mark rfl
    obtain ⟨body', rfl, means⟩ := body.exists_respelled inside
    obtain ⟨closing', rfl⟩ := right.of_singleton.exists_mark rfl
    refine ⟨.subgraph head' opening' body' closing', rfl, ?_⟩
    simp only [StatementTree.statement, ids, means]

theorem BodyTree.exists_respelled (tree : BodyTree) {found : List Token}
    (respells : Respells tree.roles found) :
    ∃ other : BodyTree, other.tokens = found ∧ other.statements = tree.statements := by
  cases tree with
  | nil => exact ⟨.nil, respells.eq_nil.symm, rfl⟩
  | cons statement semicolon rest =>
    obtain ⟨_, _, rfl, first, later⟩ := respells.exists_append
    obtain ⟨_, _, rfl, second, last⟩ := later.exists_append
    obtain ⟨statement', rfl, means⟩ := statement.exists_respelled first
    obtain ⟨semicolon', rfl⟩ := Respells.exists_semicolon semicolon second
    obtain ⟨rest', rfl, others⟩ := rest.exists_respelled last
    refine ⟨.cons statement' semicolon' rest', rfl, ?_⟩
    simp only [BodyTree.statements, means, others]

end

theorem DeclTree.exists_respelled (tree : DeclTree) {found : List Token}
    (respells : Respells tree.roles found) :
    ∃ other : DeclTree, other.tokens = found ∧ other.decl = tree.decl := by
  obtain ⟨_, _, rfl, first, later⟩ := respells.exists_append
  obtain ⟨_, _, rfl, second, later⟩ := later.exists_cons
  obtain ⟨_, _, rfl, third, later⟩ := later.exists_append
  obtain ⟨_, _, rfl, left, later⟩ := later.exists_cons
  obtain ⟨_, _, rfl, inside, right⟩ := later.exists_append
  obtain ⟨strict, rfl, isStrict⟩ := Respells.exists_optionalKeyword tree.strict first
  obtain ⟨keyword, rfl⟩ := second.exists_keyword
  obtain ⟨name, rfl, ids⟩ := Respells.exists_optionalName tree.name third
  obtain ⟨opening, rfl⟩ := left.exists_mark rfl
  obtain ⟨body, rfl, means⟩ := tree.body.exists_respelled inside
  obtain ⟨closing, rfl⟩ := right.of_singleton.exists_mark rfl
  refine ⟨⟨strict, tree.kind, keyword, name, opening, body, closing⟩, rfl, ?_⟩
  simp only [decl, isStrict, ids, means]

/-- Tokens that may stand for those of declarations are derived, as the same declarations. -/
theorem derives_of_respells {trees : List DeclTree} {tokens : List Token}
    (respells : Respells (trees.flatMap DeclTree.roles) tokens) :
    Derives tokens (trees.map DeclTree.decl) :=
  Respells.exists_flatMap DeclTree.exists_respelled trees respells

end DotGraph
