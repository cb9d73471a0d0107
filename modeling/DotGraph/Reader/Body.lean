import DotGraph.Reader.AttrList

/-!
# Reading statements and bodies

`body` reads the statements up to the end of a body; it is the reader for which `body_eq` holds.
-/

namespace DotGraph.Reader

/-- The target for which a statement that begins with a keyword sets defaults. -/
def attrTarget? : Keyword → Option Target
  | .graph => some .graph
  | .node => some .node
  | .edge => some .edge
  | _ => none

def defaultsStatement : Reader Statement := do
  let target ← accept (fun token => token.keyword?.bind attrTarget?) .expectedStatement
  let attrs ← someAttrLists
  return .attr target attrs

theorem takes_defaultsStatement : Takes 1 defaultsStatement :=
  (takes_accept _ _).bind_of_first fun _ =>
    takes_someAttrLists.weaken.bind_of_next fun _ => takes_pure _

/-- A statement that begins with a name: an assignment to the enclosing graph, a chain of edges or
a node. -/
def namedStatement : Reader Statement := do
  let name ← identifier
  if (← inspect nextKind) = .equals then
    expect .equals
    let value ← identifier
    return .attr .graph [.pair name value]
  else
    let port ← port
    let others ← links
    let attrs ← attrLists
    return if others.isEmpty then .node ⟨name, port⟩ attrs else .edge (⟨name, port⟩ :: others) attrs

theorem takes_namedStatement : Takes 1 namedStatement :=
  takes_identifier.bind_of_first fun _ => (takes_inspect _).bind_of_next fun _ => by
    split
    · exact (takes_expect _).weaken.bind_of_next fun _ =>
        takes_identifier.weaken.bind_of_next fun _ => takes_pure _
    · exact takes_port.bind_of_next fun _ => takes_links.bind_of_next fun _ =>
        takes_attrLists.bind_of_next fun _ => takes_pure _

def skipSemicolon : Reader Unit := skip (· == .semicolon)

/-- A statement other than a subgraph, and the semicolon that may follow. -/
def simpleStatement : Reader Statement := do
  if (← inspect nextKind).isId then
    let statement ←
      if ((← inspect nextKeyword?).bind attrTarget?).isSome then defaultsStatement
      else namedStatement
    skipSemicolon
    return statement
  else reject .expectedStatement

theorem takes_simpleStatement : Takes 1 simpleStatement :=
  (takes_inspect _).bind_of_next fun _ => by
    split
    · exact (takes_inspect _).bind_of_next fun _ => by
        split
        · exact takes_defaultsStatement.bind_of_first fun _ =>
            (takes_skip _).bind_of_next fun _ => takes_pure _
        · exact takes_namedStatement.bind_of_first fun _ =>
            (takes_skip _).bind_of_next fun _ => takes_pure _
    · exact takes_reject _ _

/-- A name if there is one, and the brace that opens a body. -/
def bodyOpening : Reader (Option String) := do
  if (← inspect nextKind).isId then
    let id ← identifier
    expect .leftBrace
    return some id
  else
    expect .leftBrace
    return none

theorem takes_bodyOpening : Takes 1 bodyOpening :=
  (takes_inspect _).bind_of_next fun _ => by
    split
    · exact takes_identifier.bind_of_first fun _ =>
        (takes_expect _).weaken.bind_of_next fun _ => takes_pure _
    · exact (takes_expect _).bind_of_first fun _ => takes_pure _

/-- A bare brace, or the keyword with a name if there is one and a brace. -/
def subgraphOpening : Reader (Option String) := do
  if (← inspect nextKeyword?) = some .subgraph then
    expect .identifier
    bodyOpening
  else
    expect .leftBrace
    return none

theorem takes_subgraphOpening : Takes 1 subgraphOpening :=
  (takes_inspect _).bind_of_next fun _ => by
    split
    · exact (takes_expect _).bind_of_first fun _ => takes_bodyOpening.weaken
    · exact (takes_expect _).bind_of_first fun _ => takes_pure _

/-- The brace that closes a subgraph, which may not begin an edge, and the semicolon that may
follow. -/
def subgraphClosing : Reader Unit := do
  expect .rightBrace
  if (← inspect nextKind).isEdgeOperator then reject .subgraphEndpoint else skipSemicolon

theorem takes_subgraphClosing : Takes 1 subgraphClosing :=
  (takes_expect _).bind_of_first fun _ => (takes_inspect _).bind_of_next fun _ => by
    split
    · exact takes_reject _ _
    · exact takes_skip _

def isBodyEnd : TokenKind → Bool
  | .rightBrace | .endOfInput => true
  | _ => false

/-- A body, with the fact that the rest is what the tokens end with. -/
def bodyWithin (tokens : List Token) :
    Except Rejection { result : List Statement × List Token // result.2 <:+ tokens } :=
  if isBodyEnd (nextKind tokens) then .ok ⟨([], tokens), List.suffix_refl tokens⟩
  else if startsSubgraph tokens then
    match opening : subgraphOpening.run tokens with
    | .error rejection => .error rejection
    | .ok (id, inside) =>
      match bodyWithin inside with
      | .error rejection => .error rejection
      | .ok ⟨(children, ending), inner⟩ =>
        match closing : subgraphClosing.run ending with
        | .error rejection => .error rejection
        | .ok (_, after) =>
          match bodyWithin after with
          | .error rejection => .error rejection
          | .ok ⟨(others, rest), outer⟩ =>
            .ok ⟨(.subgraph id children :: others, rest),
              (outer.trans (takes_subgraphClosing.isSuffix closing)).trans
                (inner.trans (takes_subgraphOpening.isSuffix opening))⟩
  else
    match found : simpleStatement.run tokens with
    | .error rejection => .error rejection
    | .ok (statement, after) =>
      match bodyWithin after with
      | .error rejection => .error rejection
      | .ok ⟨(others, rest), outer⟩ =>
        .ok ⟨(statement :: others, rest), outer.trans (takes_simpleStatement.isSuffix found)⟩
termination_by tokens.length
decreasing_by
  · have := takes_subgraphOpening.length_le opening
    omega
  · have := takes_subgraphOpening.length_le opening
    have := takes_subgraphClosing.length_le closing
    have := inner.length_le
    simp only at *
    omega
  · have := takes_simpleStatement.length_le found
    omega

/-- The statements up to the end of a body. -/
def body : Reader (List Statement) := ⟨fun tokens => (bodyWithin tokens).map (·.1)⟩

theorem body_eq :
    body = do
      if isBodyEnd (← inspect nextKind) then return []
      else if ← inspect startsSubgraph then
        let id ← subgraphOpening
        let children ← body
        subgraphClosing
        let others ← body
        return .subgraph id children :: others
      else
        let statement ← simpleStatement
        let others ← body
        return statement :: others := by
  ext tokens : 2
  change (bodyWithin tokens).map (·.1) = _
  rw [bodyWithin, run_bind_of_ok rfl]
  split
  · rfl
  rw [run_bind_of_ok rfl]
  split
  · split
    · next opening => rw [run_bind_of_error opening]; rfl
    · next id inside opening =>
      rw [run_bind_of_ok opening, run_bind]
      dsimp only [body]
      cases bodyWithin inside with
      | error rejection => rfl
      | ok result =>
        obtain ⟨⟨children, ending⟩, _⟩ := result
        dsimp only
        split
        · next closing => simp only [Except.map, run_bind_of_error closing]
        · next after closing =>
          simp only [Except.map, run_bind_of_ok closing, run_bind]
          cases bodyWithin after <;> rfl
  · split
    · next found => rw [run_bind_of_error found]; rfl
    · next statement after found =>
      rw [run_bind_of_ok found, run_bind]
      dsimp only [body]
      cases bodyWithin after <;> rfl

theorem takes_body : Takes 0 body := by
  intro tokens value rest h
  cases found : bodyWithin tokens with
  | error rejection => simp only [body, found, Except.map] at h; cases h
  | ok result =>
    obtain ⟨⟨statements, last⟩, used, same⟩ := result
    simp only [body, found, Except.map] at h
    cases h
    exact ⟨used, same.symm, Nat.zero_le _⟩

end DotGraph.Reader
