import DotGraph.GraphDecl.OfTokens

/-!
# What readers see of a token

A reader sees the kinds and the texts of tokens only: where tokens are relabelled so that these
stay, it answers the same and leaves the same tokens, relabelled (`Reader.blind_declarations`).
-/

namespace DotGraph

/-- A change of tokens that keeps their kinds and texts. -/
def Token.Keeps (f : Token → Token) : Prop :=
  ∀ token, (f token).kind = token.kind ∧ (f token).text = token.text

theorem Token.Keeps.keyword? {f : Token → Token} (keeps : Token.Keeps f) (token : Token) :
    (f token).keyword? = token.keyword? := by
  unfold Token.keyword?
  rw [(keeps token).1, (keeps token).2]

def Rejection.map (f : Token → Token) (rejection : Rejection) : Rejection :=
  ⟨rejection.reason, rejection.rest.map f⟩

namespace Reader

variable {α β : Type} {f : Token → Token}

/-- An answer of a reader with the tokens that are left relabelled. -/
def relabelled (f : Token → Token) :
    Except Rejection (α × List Token) → Except Rejection (α × List Token)
  | .error rejection => .error (rejection.map f)
  | .ok (value, rest) => .ok (value, rest.map f)

/-- On these tokens the reader does not see that they are relabelled. -/
def BlindOn (f : Token → Token) (reader : Reader α) (tokens : List Token) : Prop :=
  reader.run (tokens.map f) = relabelled f (reader.run tokens)

/-- The reader does not see that tokens are relabelled. -/
def Blind (f : Token → Token) (reader : Reader α) : Prop := ∀ tokens, BlindOn f reader tokens

theorem BlindOn.bind {reader : Reader α} {next : α → Reader β} {tokens : List Token}
    (blind : BlindOn f reader tokens)
    (after : ∀ value rest, reader.run tokens = .ok (value, rest) → BlindOn f (next value) rest) :
    BlindOn f (reader >>= next) tokens := by
  unfold BlindOn at blind ⊢
  cases found : reader.run tokens with
  | error rejection =>
    rw [found] at blind
    rw [run_bind_of_error found, run_bind_of_error blind]
    rfl
  | ok result =>
    rw [found] at blind
    rw [run_bind_of_ok found, run_bind_of_ok blind]
    exact after result.1 result.2 found

theorem blind_pure (value : α) : Blind f (pure value) := fun _ => rfl

theorem blind_reject (reason : Reason) : Blind f (reject reason : Reader α) := fun _ => rfl

theorem Blind.bind {reader : Reader α} {next : α → Reader β} (blind : Blind f reader)
    (after : ∀ value, Blind f (next value)) : Blind f (reader >>= next) :=
  fun tokens => (blind tokens).bind fun value rest _ => after value rest

/-- What a reader does next may depend on what it sees of the tokens that are left. -/
theorem BlindOn.inspect {γ : Type} {view : List Token → γ} {next : γ → Reader α}
    {tokens : List Token} (same : view (tokens.map f) = view tokens)
    (after : BlindOn f (next (view tokens)) tokens) :
    BlindOn f (Reader.inspect view >>= next) tokens := by
  change (next (view (tokens.map f))).run _ = relabelled f ((next (view tokens)).run tokens)
  rw [same]
  exact after

theorem blind_inspect {γ : Type} {view : List Token → γ} {next : γ → Reader α}
    (same : ∀ tokens, view (tokens.map f) = view tokens) (after : ∀ seen, Blind f (next seen)) :
    Blind f (inspect view >>= next) :=
  fun tokens => BlindOn.inspect (same tokens) (after _ tokens)

theorem Blind.ite {p : Prop} [Decidable p] {yes no : Reader α} (blind : Blind f yes)
    (blind' : Blind f no) : Blind f (if p then yes else no) := by
  split
  · exact blind
  · exact blind'

theorem blind_accept {wanted : Token → Option α} {reason : Reason}
    (same : ∀ token, wanted (f token) = wanted token) : Blind f (accept wanted reason) := by
  intro tokens
  cases tokens with
  | nil => rfl
  | cons token tokens =>
    unfold BlindOn
    simp only [accept, List.map_cons, same]
    cases wanted token <;> rfl

section Keeps

variable (keeps : Token.Keeps f)
include keeps

theorem nextKind_map (tokens : List Token) :
    nextKind (tokens.map f) = nextKind tokens := by
  cases tokens with
  | nil => rfl
  | cons token tokens => exact (keeps token).1

theorem nextKeyword?_map (tokens : List Token) :
    nextKeyword? (tokens.map f) = nextKeyword? tokens := by
  cases tokens with
  | nil => rfl
  | cons token tokens => exact keeps.keyword? token

theorem startsSubgraph_map (tokens : List Token) :
    startsSubgraph (tokens.map f) = startsSubgraph tokens := by
  unfold startsSubgraph
  rw [nextKind_map keeps, nextKeyword?_map keeps]

theorem blind_expect (kind : TokenKind) : Blind f (expect kind) :=
  blind_accept fun token => by rw [(keeps token).1]

theorem blind_skip (unwanted : TokenKind → Bool) :
    Blind f (skip unwanted) := by
  intro tokens
  cases tokens with
  | nil => rfl
  | cons token tokens =>
    unfold BlindOn
    simp only [skip, List.map_cons, (keeps token).1]
    split <;> rfl

theorem blindOn_repeatWhile {reader : Reader α} (blind : Blind f reader)
    (goOn : TokenKind → Bool) (takes : reader.Takes 1) (tokens : List Token) :
    BlindOn f (repeatWhile goOn reader takes) tokens := by
  rw [repeatWhile_eq]
  apply BlindOn.inspect (nextKind_map keeps tokens)
  split
  · apply (blind tokens).bind
    intro value rest found
    have := takes.length_le found
    apply (blindOn_repeatWhile blind goOn takes rest).bind
    intro values last _
    exact blind_pure _ last
  · exact blind_pure [] tokens
termination_by tokens.length

theorem blind_repeatWhile {reader : Reader α} (blind : Blind f reader)
    (goOn : TokenKind → Bool) (takes : reader.Takes 1) :
    Blind f (repeatWhile goOn reader takes) :=
  blindOn_repeatWhile keeps blind goOn takes

theorem blind_joinedString : Blind f joinedString := by
  apply (blind_expect keeps .plus).bind
  intro _
  apply blind_accept
  intro token
  rw [(keeps token).1, (keeps token).2]

/-- The first token of a name is handed on, but only its kind and text are used. -/
theorem blind_identifier : Blind f identifier := by
  intro tokens
  cases tokens with
  | nil => rfl
  | cons token tokens =>
    by_cases name : token.kind.isId = true
    · have taken : (accept (fun token => if token.kind.isId then some token else none)
          .expectedIdentifier).run (token :: tokens) = .ok (token, tokens) := by
        simp [accept, name]
      have taken' : (accept (fun token => if token.kind.isId then some token else none)
          .expectedIdentifier).run (f token :: tokens.map f) = .ok (f token, tokens.map f) := by
        simp [accept, (keeps token).1, name]
      have others : Blind f (if token.kind = .string then
          repeatWhile (· == .plus) joinedString takes_joinedString >>= fun others =>
            pure (token.text ++ String.join others)
          else pure token.text) :=
        ((blind_repeatWhile keeps (blind_joinedString keeps) _ _).bind fun _ => blind_pure _).ite
          (blind_pure _)
      unfold BlindOn identifier
      rw [List.map_cons, run_bind_of_ok taken, run_bind_of_ok taken', (keeps token).1,
        (keeps token).2]
      exact others tokens
    · unfold BlindOn identifier
      rw [List.map_cons, run_bind, run_bind]
      simp [accept, (keeps token).1, name, relabelled, Rejection.map]

theorem blind_portPart : Blind f portPart := by
  apply (blind_expect keeps .colon).bind
  intro _
  exact blind_identifier keeps

theorem blind_port : Blind f port := by
  apply blind_inspect (nextKind_map keeps)
  intro kind
  apply Blind.ite
  · apply (blind_portPart keeps).bind
    intro first
    apply blind_inspect (nextKind_map keeps)
    intro kind
    apply Blind.ite
    · apply (blind_portPart keeps).bind
      intro second
      exact blind_pure _
    · exact blind_pure _
  · exact blind_pure none

theorem blind_nodeRef : Blind f nodeRef := by
  apply (blind_identifier keeps).bind
  intro id
  apply (blind_port keeps).bind
  intro port
  exact blind_pure (NodeRef.mk id port)

theorem blind_link : Blind f link := by
  apply Blind.bind
  · apply blind_accept
    intro token
    rw [(keeps token).1]
  · intro _
    apply blind_inspect (startsSubgraph_map keeps)
    intro starts
    exact (blind_reject .subgraphEndpoint).ite (blind_nodeRef keeps)

theorem blind_links : Blind f links := blind_repeatWhile keeps (blind_link keeps) _ takes_link

theorem blind_attrPair : Blind f attrPair := by
  apply (blind_identifier keeps).bind
  intro key
  apply (blind_expect keeps .equals).bind
  intro _
  apply (blind_identifier keeps).bind
  intro value
  apply (blind_skip keeps _).bind
  intro _
  exact blind_pure (AttrItem.pair key value)

theorem blind_bracketed : Blind f bracketed := by
  apply (blind_expect keeps .leftBracket).bind
  intro _
  apply (blind_repeatWhile keeps (blind_attrPair keeps) _ takes_attrPair).bind
  intro pairs
  apply (blind_expect keeps .rightBracket).bind
  intro _
  exact blind_pure pairs

theorem blind_attrLists : Blind f attrLists := by
  apply (blind_repeatWhile keeps (blind_bracketed keeps) _ takes_bracketed).bind
  intro lists
  exact blind_pure lists.flatten

theorem blind_someAttrLists : Blind f someAttrLists := by
  apply (blind_bracketed keeps).bind
  intro first
  apply (blind_attrLists keeps).bind
  intro others
  exact blind_pure (first ++ others)

theorem blind_defaultsStatement : Blind f defaultsStatement := by
  apply Blind.bind
  · apply blind_accept
    intro token
    rw [keeps.keyword?]
  · intro target
    apply (blind_someAttrLists keeps).bind
    intro attrs
    exact blind_pure (Statement.attr target attrs)

theorem blind_namedStatement : Blind f namedStatement := by
  apply (blind_identifier keeps).bind
  intro name
  apply blind_inspect (nextKind_map keeps)
  intro kind
  apply Blind.ite
  · apply (blind_expect keeps .equals).bind
    intro _
    apply (blind_identifier keeps).bind
    intro value
    exact blind_pure _
  · apply (blind_port keeps).bind
    intro port
    apply (blind_links keeps).bind
    intro others
    apply (blind_attrLists keeps).bind
    intro attrs
    exact blind_pure _

theorem blind_skipSemicolon : Blind f skipSemicolon := blind_skip keeps _

theorem blind_simpleStatement : Blind f simpleStatement := by
  apply blind_inspect (nextKind_map keeps)
  intro kind
  apply Blind.ite
  · apply blind_inspect (nextKeyword?_map keeps)
    intro keyword
    split
    · apply (blind_defaultsStatement keeps).bind
      intro statement
      apply (blind_skipSemicolon keeps).bind
      intro _
      exact blind_pure statement
    · apply (blind_namedStatement keeps).bind
      intro statement
      apply (blind_skipSemicolon keeps).bind
      intro _
      exact blind_pure statement
  · exact blind_reject .expectedStatement

theorem blind_bodyOpening : Blind f bodyOpening := by
  apply blind_inspect (nextKind_map keeps)
  intro kind
  apply Blind.ite
  · apply (blind_identifier keeps).bind
    intro id
    apply (blind_expect keeps .leftBrace).bind
    intro _
    exact blind_pure (some id)
  · apply (blind_expect keeps .leftBrace).bind
    intro _
    exact blind_pure none

theorem blind_subgraphOpening : Blind f subgraphOpening := by
  apply blind_inspect (nextKeyword?_map keeps)
  intro keyword
  apply Blind.ite
  · apply (blind_expect keeps .identifier).bind
    intro _
    exact blind_bodyOpening keeps
  · apply (blind_expect keeps .leftBrace).bind
    intro _
    exact blind_pure none

theorem blind_subgraphClosing : Blind f subgraphClosing := by
  apply (blind_expect keeps .rightBrace).bind
  intro _
  apply blind_inspect (nextKind_map keeps)
  intro kind
  exact (blind_reject .subgraphEndpoint).ite (blind_skipSemicolon keeps)

/-- What follows a subgraph is shorter than the body, and so is what stands within it. -/
theorem blind_body : Blind f body := by
  intro tokens
  rw [body_eq]
  apply BlindOn.inspect (nextKind_map keeps tokens)
  split
  · exact blind_pure [] tokens
  apply BlindOn.inspect (startsSubgraph_map keeps tokens)
  split
  · apply (blind_subgraphOpening keeps tokens).bind
    intro id inside opened
    have := takes_subgraphOpening.length_le opened
    apply (blind_body inside).bind
    intro children ending within
    have := takes_body.length_le within
    apply (blind_subgraphClosing keeps ending).bind
    intro _ after closed
    have := takes_subgraphClosing.length_le closed
    apply (blind_body after).bind
    intro others rest _
    exact blind_pure _ rest
  · apply (blind_simpleStatement keeps tokens).bind
    intro statement after found
    have := takes_simpleStatement.length_le found
    apply (blind_body after).bind
    intro others rest _
    exact blind_pure _ rest
termination_by tokens => tokens.length

theorem blind_graphDecl (strict : Bool) : Blind f (graphDecl strict) := by
  apply Blind.bind
  · apply blind_accept
    intro token
    rw [keeps.keyword?]
  · intro kind
    apply (blind_bodyOpening keeps).bind
    intro id
    apply (blind_body keeps).bind
    intro children
    apply (blind_expect keeps .rightBrace).bind
    intro _
    exact blind_pure (GraphDecl.mk kind strict id children)

theorem blind_declaration : Blind f declaration := by
  apply blind_inspect (nextKeyword?_map keeps)
  intro keyword
  apply Blind.ite
  · apply (blind_expect keeps .identifier).bind
    intro _
    exact blind_graphDecl keeps true
  · exact blind_graphDecl keeps false

theorem blind_declarations : Blind f declarations :=
  blind_repeatWhile keeps (blind_declaration keeps) _ takes_declaration

end Keeps

end Reader

end DotGraph
