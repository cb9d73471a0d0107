import DotGraph.Proofs.Grammar.Reads
import DotGraph.Reader.AttrList

/-!
# Reading phrases

The readers of names, ports, nodes, attribute lists and chains read the trees of these phrases.
-/

namespace DotGraph

theorem TokenKind.ne_of_class {kind other : TokenKind} {p : TokenKind → Bool}
    (inside : p kind = true) (outside : p other = false) : kind ≠ other := by
  rintro rfl
  rw [inside] at outside
  cases outside

namespace Reader

theorem reads_joinedString :
    Reads joinedString (fun other : Mark .plus × Mark .string => [other.1.1, other.2.1])
      (fun other => other.2.1.text) fun _ => True :=
  (reads_expect .plus).bind
    (fun _ => reads_accept_if (fun token => token.kind = .string) Token.text _)
    fun _ _ _ => trivial

theorem reads_joinedStrings :
    Reads (Reader.repeatWhile (· == .plus) joinedString takes_joinedString)
      (fun others : List (Mark .plus × Mark .string) =>
        others.flatMap fun other => [other.1.1, other.2.1])
      (fun others => others.map fun other => other.2.1.text) (· ≠ .plus) := by
  have reads := reads_joinedString.repeatWhile (· == .plus) takes_joinedString
    (fun other _ => beq_iff_eq.mpr other.1.2) fun _ _ => trivial
  exact reads.mono fun kind apart => ⟨trivial, beq_eq_false_iff_ne.mpr apart⟩

theorem reads_identifier :
    Reads identifier NameTree.tokens NameTree.text (· ≠ .plus) := by
  have reads_first := reads_accept_if (fun token => token.kind.isId = true) (fun token => token)
    .expectedIdentifier
  constructor
  · intro name rest fits
    obtain ⟨first, others, joins⟩ := name
    refine (run_bind_of_ok (reads_first.complete first trivial) _).trans ?_
    by_cases quoted : first.1.kind = .string
    · rw [if_pos quoted]
      exact run_bind_of_ok (reads_joinedStrings.complete others fits) _
    · obtain rfl := joins.resolve_left quoted
      rw [if_neg quoted]
      exact congrArg (fun text => Except.ok (text, rest)) (String.append_empty).symm
  · intro input rest result found
    obtain ⟨token, middle, taken, more⟩ := run_bind_eq_ok found
    obtain ⟨first, rfl, rfl⟩ := reads_first.sound taken
    split at more
    · next quoted =>
      obtain ⟨texts, last, joined, ends⟩ := run_bind_eq_ok more
      obtain ⟨others, rfl, rfl⟩ := reads_joinedStrings.sound joined
      cases ends
      exact ⟨⟨first, others, .inl quoted⟩, rfl, rfl⟩
    · cases more
      exact ⟨⟨first, [], .inr rfl⟩, rfl, String.append_empty⟩
  · intro name other rest rest' fits fits' equal
    obtain ⟨first, others, joins⟩ := name
    obtain ⟨first', others', joins'⟩ := other
    obtain ⟨same, later⟩ := List.cons.inj equal
    obtain rfl := Subtype.ext same
    obtain ⟨rfl, rests⟩ := reads_joinedStrings.unique _ _ fits fits' later
    exact ⟨rfl, rests⟩

theorem reads_portPart :
    Reads portPart PartTree.tokens PartTree.text (· ≠ .plus) :=
  (reads_expect .colon).bind (fun _ => reads_identifier) fun _ _ _ => trivial

theorem text?_two (first second : PartTree) :
    PortTree.text? (some (first, some second)) = some (first.text ++ ":" ++ second.text) := by
  have joined : first.text ++ ":" ++ second.text ≠ "" := by
    intro empty
    have := congrArg String.length empty
    simp at this
  exact if_neg joined

theorem nextKind_part (part : PartTree) (rest : List Token) :
    nextKind (part.tokens ++ rest) = .colon := part.1.2

theorem reads_port :
    Reads port PortTree.tokens PortTree.text? fun kind => kind ≠ .plus ∧ kind ≠ .colon := by
  have secondPart (first : String) :=
    (reads_portPart.bind (fun second => reads_pure (some (first ++ ":" ++ second)) (· ≠ .plus))
      fun _ _ fits => fits).optional (· = .colon) (if first = "" then none else some first)
      fun trees rest => nextKind_part trees.1 rest
  have parts := (reads_portPart.bind secondPart fun tree rest fits => by
    cases tree with
    | none => exact fits.1
    | some second =>
      change second.1.1.1.kind ≠ .plus
      rw [second.1.1.2]
      decide).optional
      (· = .colon) none fun trees _ => trees.1.1.2
  apply (parts.mono fun kind fits => ⟨fits, fits.2⟩).relabel
    (Option.map fun tree => (tree.1, tree.2.map fun second => (second, ())))
    (Option.map fun trees => (trees.1, trees.2.map Prod.fst))
  case same => rintro (_ | ⟨_, _ | _⟩) <;> simp [PortTree.tokens, PortTree.parts]
  case means =>
    rintro (_ | ⟨_, _ | _⟩)
    · rfl
    · rfl
    · exact text?_two _ _
  all_goals
    rintro (_ | ⟨_, _ | _⟩) <;> rfl

theorem nextKind_port (follow : TokenKind → Prop) (port : PortTree) {rest : List Token}
    (colon : follow .colon) (fits : follow (nextKind rest)) :
    follow (nextKind (port.tokens ++ rest)) := by
  rcases port with _ | ⟨part, _⟩
  · exact fits
  · change follow part.1.1.kind
    rw [part.1.2]
    exact colon

theorem reads_nodeRef :
    Reads nodeRef RefTree.tokens RefTree.value fun kind => kind ≠ .plus ∧ kind ≠ .colon := by
  have reads := reads_identifier.bind (fun id => reads_port.bind (fun port => reads_pure
    (NodeRef.mk id port) fun kind => kind ≠ .plus ∧ kind ≠ .colon) fun _ _ fits => fits)
    fun trees rest fits => by
      rw [List.append_assoc]
      exact nextKind_port (· ≠ .plus) trees.1 (by decide) fits.1
  apply reads.relabel (fun ref => (ref.name, ref.port, ())) (fun trees => ⟨trees.1, trees.2.1⟩)
  case same =>
    intro ref
    simp [RefTree.tokens]
  all_goals
    intro _
    rfl

theorem reads_attrPair :
    Reads attrPair PairTree.tokens PairTree.item fun kind =>
      kind ≠ .plus ∧ kind ≠ .comma ∧ kind ≠ .semicolon := by
  have separator (key value : String) := ((reads_skip
    (fun kind => kind == .comma || kind == .semicolon)).bind
    (fun _ => reads_pure (AttrItem.pair key value) fun kind =>
      (kind == .comma || kind == .semicolon) = false) fun _ _ fits => fits).mono
    fun kind (fits : kind ≠ .plus ∧ kind ≠ .comma ∧ kind ≠ .semicolon) => by simp [fits.2]
  have value (key : String) := reads_identifier.bind (separator key) fun trees rest fits => by
    rcases trees with ⟨_ | mark, _⟩
    · exact fits.1
    · change mark.1.kind ≠ .plus
      intro plus
      simpa [plus] using mark.2
  have reads := reads_identifier.bind (fun key => (reads_expect .equals).bind
    (fun _ => value key) fun _ _ _ => trivial) fun trees _ _ => by
      change trees.1.1.kind ≠ .plus
      rw [trees.1.2]
      decide
  apply reads.relabel (fun pair => (pair.key, pair.equals, pair.value, pair.separator, ()))
    (fun trees => ⟨trees.1, trees.2.1, trees.2.2.1, trees.2.2.2.1⟩)
  case same =>
    intro pair
    simp [PairTree.tokens]
  all_goals
    intro _
    rfl

theorem reads_bracketed :
    Reads bracketed ListTree.tokens ListTree.items fun _ => True := by
  have begins (pair : PairTree) : pair.key.first.1.kind.isId = true := pair.key.first.2
  have pairs := reads_attrPair.repeatWhile (· != .rightBracket) takes_attrPair
    (fun pair _ => bne_iff_ne.mpr (TokenKind.ne_of_class (begins pair) rfl))
    fun pair _ => ⟨TokenKind.ne_of_class (begins pair) rfl,
      TokenKind.ne_of_class (begins pair) rfl, TokenKind.ne_of_class (begins pair) rfl⟩
  have reads := (reads_expect .leftBracket).bind (fun _ => pairs.bind (fun items =>
    (reads_expect .rightBracket).bind (fun _ => reads_pure items fun _ => True)
      fun _ _ _ => trivial) fun trees _ _ => by
        change (trees.1.1.kind ≠ .plus ∧ trees.1.1.kind ≠ .comma ∧ trees.1.1.kind ≠ .semicolon) ∧
          (trees.1.1.kind != .rightBracket) = false
        rw [trees.1.2]
        decide) fun _ _ _ => trivial
  apply reads.relabel (fun list => (list.opening, list.pairs, list.closing, ()))
    (fun trees => ⟨trees.1, trees.2.1, trees.2.2.1⟩)
  all_goals
    intro _
    rfl

theorem reads_attrLists :
    Reads attrLists (fun lists : List ListTree => lists.flatMap ListTree.tokens)
      (fun lists => lists.flatMap ListTree.items) (· ≠ .leftBracket) := by
  have lists := reads_bracketed.repeatWhile (· == .leftBracket) takes_bracketed
    (fun list _ => beq_iff_eq.mpr list.opening.2) fun _ _ => trivial
  have reads := lists.bind (fun lists => reads_pure lists.flatten (· ≠ .leftBracket))
    fun _ _ fits => ⟨trivial, beq_eq_false_iff_ne.mpr fits⟩
  apply reads.relabel (fun lists => (lists, ())) Prod.fst
  case same =>
    intro lists
    exact (List.append_nil _).symm
  case means =>
    intro lists
    exact List.flatMap_def ..
  all_goals
    intro _
    rfl

theorem nextKind_lists (follow : TokenKind → Prop) (lists : List ListTree) {rest : List Token}
    (bracket : follow .leftBracket) (fits : follow (nextKind rest)) :
    follow (nextKind (lists.flatMap ListTree.tokens ++ rest)) := by
  rcases lists with _ | ⟨list, _⟩
  · exact fits
  · change follow list.opening.1.kind
    rw [list.opening.2]
    exact bracket

theorem reads_someAttrLists :
    Reads someAttrLists
      (fun lists : ListTree × List ListTree => (lists.1 :: lists.2).flatMap ListTree.tokens)
      (fun lists => (lists.1 :: lists.2).flatMap ListTree.items) (· ≠ .leftBracket) := by
  have reads := reads_bracketed.bind (fun first => reads_attrLists.bind (fun others =>
    reads_pure (first ++ others) (· ≠ .leftBracket)) fun _ _ fits => fits) fun _ _ _ => trivial
  apply reads.relabel (fun lists => (lists.1, lists.2, ())) (fun trees => (trees.1, trees.2.1))
  case same =>
    intro lists
    simp
  all_goals
    intro _
    rfl

theorem startsSubgraph_name (name : NameTree) (rest : List Token) :
    startsSubgraph (name.tokens ++ rest) = true ↔ name.keyword? = some .subgraph := by
  have named : (name.first.1.kind == .leftBrace) = false :=
    beq_eq_false_iff_ne.mpr (TokenKind.ne_of_class name.first.2 rfl)
  change (name.first.1.kind == .leftBrace || name.keyword? == some .subgraph) = true ↔ _
  rw [named, Bool.false_or, beq_iff_eq]

theorem startsSubgraph_ref (ref : RefTree) (rest : List Token) :
    startsSubgraph (ref.tokens ++ rest) = true ↔ ref.name.keyword? = some .subgraph := by
  rw [RefTree.tokens, List.append_assoc]
  exact startsSubgraph_name ref.name _

theorem reads_link :
    Reads link LinkTree.tokens LinkTree.value fun kind => kind ≠ .plus ∧ kind ≠ .colon := by
  have target := Reads.choice startsSubgraph (· = true) (fun _ => True)
    (fun ref => ref.name.keyword? ≠ some .subgraph)
    (reads_reject .subgraphEndpoint fun kind => kind ≠ .plus ∧ kind ≠ .colon) reads_nodeRef
    (fun {tree} => tree.elim) (fun plain _ => by rwa [startsSubgraph_ref]) (fun _ => trivial)
    (fun seen => by rwa [startsSubgraph_ref] at seen)
  have reads := (reads_accept_if (fun token => token.kind.isEdgeOperator = true) (fun _ => ())
    (.expected .arrow)).bind (fun _ => target) fun _ _ _ => trivial
  apply reads.relabel (fun link => (link.operator, .inr ⟨link.target, link.plain⟩))
    (fun trees => trees.2.elim (fun tree => tree.1.elim) fun ref => ⟨trees.1, ref.1, ref.2⟩)
  case right =>
    rintro ⟨_, tree | _⟩
    · exact tree.1.elim
    · rfl
  all_goals
    intro _
    rfl

theorem reads_links :
    Reads links (fun links : List LinkTree => links.flatMap LinkTree.tokens)
      (fun links => links.map LinkTree.value)
      fun kind => kind ≠ .plus ∧ kind ≠ .colon ∧ kind.isEdgeOperator = false := by
  have reads := reads_link.repeatWhile TokenKind.isEdgeOperator takes_link
    (fun link _ => link.operator.2) fun link _ =>
      ⟨TokenKind.ne_of_class link.operator.2 rfl, TokenKind.ne_of_class link.operator.2 rfl⟩
  exact reads.mono fun kind fits => ⟨⟨fits.1, fits.2.1⟩, fits.2.2⟩

theorem nextKind_links (follow : TokenKind → Prop) (links : List LinkTree) {rest : List Token}
    (operator : ∀ kind : TokenKind, kind.isEdgeOperator = true → follow kind)
    (fits : follow (nextKind rest)) :
    follow (nextKind (links.flatMap LinkTree.tokens ++ rest)) := by
  rcases links with _ | ⟨link, _⟩
  · exact fits
  · exact operator _ link.operator.2

end Reader

end DotGraph
