import DotGraph.Reader.Repeat
import DotGraph.Statement.Basic

/-!
# Reading names, ports and chains
-/

namespace DotGraph.Reader

/-- A string that a plus sign joins to the one before. -/
def joinedString : Reader String := do
  expect .plus
  accept (fun token => if token.kind = .string then some token.text else none) .expectedString

theorem takes_joinedString : Takes 1 joinedString :=
  (takes_expect _).bind_of_first fun _ => (takes_accept _ _).weaken

def identifier : Reader String := do
  let token ← accept (fun token => if token.kind.isId then some token else none)
    .expectedIdentifier
  if token.kind = .string then
    let others ← repeatWhile (· == .plus) joinedString takes_joinedString
    return token.text ++ String.join others
  else return token.text

theorem takes_identifier : Takes 1 identifier :=
  (takes_accept _ _).bind_of_first fun token => by
    split
    · exact (takes_repeatWhile _ _ _).bind_of_next fun _ => takes_pure _
    · exact takes_pure _

def portPart : Reader String := do
  expect .colon
  identifier

theorem takes_portPart : Takes 0 portPart :=
  (takes_expect _).weaken.bind_of_next fun _ => takes_identifier.weaken

/-- Up to two port parts; an empty port is none. -/
def port : Reader (Option String) := do
  if (← inspect nextKind) = .colon then
    let first ← portPart
    if (← inspect nextKind) = .colon then
      let second ← portPart
      return some (first ++ ":" ++ second)
    else return if first = "" then none else some first
  else return none

theorem takes_port : Takes 0 port :=
  (takes_inspect _).bind_of_next fun _ => by
    split
    · exact takes_portPart.bind_of_next fun _ => (takes_inspect _).bind_of_next fun _ => by
        split
        · exact takes_portPart.bind_of_next fun _ => takes_pure _
        · exact takes_pure _
    · exact takes_pure _

def nodeRef : Reader NodeRef := do
  let id ← identifier
  let port ← port
  return ⟨id, port⟩

theorem takes_nodeRef : Takes 1 nodeRef :=
  takes_identifier.bind_of_first fun _ => takes_port.bind_of_next fun _ => takes_pure _

def startsSubgraph (tokens : List Token) : Bool :=
  nextKind tokens == .leftBrace || nextKeyword? tokens == some .subgraph

/-- An edge operator and the node it leads to. -/
def link : Reader NodeRef := do
  accept (fun token => if token.kind.isEdgeOperator then some () else none) (.expected .arrow)
  if ← inspect startsSubgraph then reject .subgraphEndpoint else nodeRef

theorem takes_link : Takes 1 link :=
  (takes_accept _ _).bind_of_first fun _ => (takes_inspect _).bind_of_next fun _ => by
    split
    · exact takes_reject _ _
    · exact takes_nodeRef.weaken

/-- The further nodes of a chain. -/
def links : Reader (List NodeRef) := repeatWhile TokenKind.isEdgeOperator link takes_link

theorem takes_links : Takes 0 links := takes_repeatWhile _ _ _

end DotGraph.Reader
