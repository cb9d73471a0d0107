import DotGraph.Reader.Name

/-!
# Reading attribute lists
-/

namespace DotGraph.Reader

/-- A key, its value and the separator that may follow. -/
def attrPair : Reader AttrItem := do
  let key ← identifier
  expect .equals
  let value ← identifier
  skip fun kind => kind == .comma || kind == .semicolon
  return .pair key value

theorem takes_attrPair : Takes 1 attrPair :=
  takes_identifier.bind_of_first fun _ =>
    (takes_expect _).weaken.bind_of_next fun _ => takes_identifier.weaken.bind_of_next fun _ =>
      (takes_skip _).bind_of_next fun _ => takes_pure _

def bracketed : Reader (List AttrItem) := do
  expect .leftBracket
  let pairs ← repeatWhile (· != .rightBracket) attrPair takes_attrPair
  expect .rightBracket
  return pairs

theorem takes_bracketed : Takes 1 bracketed :=
  (takes_expect _).bind_of_first fun _ => (takes_repeatWhile _ _ _).bind_of_next fun _ =>
    (takes_expect _).weaken.bind_of_next fun _ => takes_pure _

/-- As many bracketed lists as there are, one after another. -/
def attrLists : Reader (List AttrItem) := do
  let lists ← repeatWhile (· == .leftBracket) bracketed takes_bracketed
  return lists.flatten

theorem takes_attrLists : Takes 0 attrLists :=
  (takes_repeatWhile _ _ _).bind_of_next fun _ => takes_pure _

/-- At least one bracketed list. -/
def someAttrLists : Reader (List AttrItem) := do
  let first ← bracketed
  let others ← attrLists
  return first ++ others

theorem takes_someAttrLists : Takes 1 someAttrLists :=
  takes_bracketed.bind_of_first fun _ => takes_attrLists.bind_of_next fun _ => takes_pure _

end DotGraph.Reader
