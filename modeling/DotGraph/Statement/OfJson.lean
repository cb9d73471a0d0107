import DotGraph.Binary64.Text
import DotGraph.Journal
import DotGraph.Statement.LoadError

/-!
# Statements from untyped values

A statement may be given as an object that names its tag and holds its parts in fields. Fields that
are absent or blank count as empty. Objects with an unknown tag, and default attributes with an
unknown target, are dropped with a record; entries of an attribute list that are no pairs with a key
are dropped without one.
-/

namespace DotGraph.Statement

open Json (field)

/-- The text of a scalar. A number that is whole is written with all its digits. -/
def scalarText : Json → Except LoadError (Option String)
  | .null => .ok none
  | .bool value => .ok (some (if value then "true" else "false"))
  | .int value => .ok (some (toString value))
  | .float value =>
    match value.toInt? with
    | some whole => .ok (some (toString whole))
    | none => .ok (some value.text)
  | .string value => .ok (some value)
  | .array _ => .error (.notText .array)
  | .object _ => .error (.notText .object)

/-- A text may be wrapped in an object, as its value. -/
def optionalText : Json → Except LoadError (Option String)
  | .object fields => scalarText (field fields "value")
  | value => scalarText value

/-- What a value holds, where a list is wanted. -/
def elements (value : Json) : Except LoadError (List Json) :=
  match value.elements? with
  | some items => .ok items
  | none => .error (.noElements value.kind)

def elementsOrNone (value : Json) : Except LoadError (List Json) :=
  if value.isBlank then .ok [] else elements value

/-- A port may be given as parts, of which those that are not empty are joined by colons. -/
def portText : Json → Except LoadError (Option String)
  | .object fields => do
    let name ← optionalText (field fields "id")
    let compass ← optionalText (field fields "compass_pt")
    let parts := ([name, compass].filterMap id).filter (· ≠ "")
    return if parts.isEmpty then none else some (":".intercalate parts)
  | value => optionalText value

/-- Whether fields are those of a reference to a node; a reference need not say that it is one. -/
def isNodeRef (fields : List (String × Json)) : Bool :=
  match fields.lookup "type" with
  | none => true
  | some (.string tag) => tag == "node_id"
  | some _ => false

def nodeRef? : Json → Except LoadError (Option NodeRef)
  | .object fields =>
    if isNodeRef fields then do
      match ← optionalText (field fields "id") with
      | none => return none
      | some id => return some ⟨id, ← portText (field fields "port")⟩
    else return none
  | _ => return none

def attrItem? : Json → Except LoadError (Option AttrItem)
  | .object fields =>
    match field fields "type" with
    | .string tag =>
      if tag = "attr" then do
        match ← optionalText (field fields "id") with
        | none => return none
        | some key =>
          if key = "" then return none
          else return some (.pair key ((← optionalText (field fields "eq")).getD ""))
      else return none
    | _ => return none
  | _ => return none

def attrItems (data : Json) : Except LoadError (List AttrItem) := do
  return (← (← elements data).mapM attrItem?).filterMap id

def attrsField (fields : List (String × Json)) : Except LoadError (List AttrItem) := do
  return (← (← elementsOrNone (field fields "attr_list")).mapM attrItem?).filterMap id

def nodeOfFields (fields : List (String × Json)) : Except LoadError Statement := do
  match ← nodeRef? (field fields "node_id") with
  | none => throw .missingNodeId
  | some ref => return .node ref (← attrsField fields)

/-- All references are there, or none are taken. -/
def allSome {α : Type} : List (Option α) → Option (List α)
  | [] => some []
  | none :: _ => none
  | some value :: rest => (allSome rest).map (value :: ·)

def edgeOfFields (fields : List (String × Json)) : Except LoadError Statement := do
  match allSome (← (← elementsOrNone (field fields "edge_list")).mapM nodeRef?) with
  | none => throw .badEndpoint
  | some chain => return .edge chain (← attrsField fields)

def attrOfFields (fields : List (String × Json)) : Journal LoadError (Option Statement) :=
  match field fields "target" with
  | .array _ => .fail (.compoundTarget .array)
  | .object _ => .fail (.compoundTarget .object)
  | target =>
    let known :=
      match target with
      | .string name => Target.ofName? name
      | _ => none
    match known with
    | some target => do return some (.attr target (← attrsField fields))
    | none => do
      .note (.droppedTarget target)
      return none

def tagOf? : Json → Option Tag
  | .string name => Tag.ofName? name
  | _ => none

mutual

/-- One statement; none if it is dropped. -/
def ofJson : Json → Journal LoadError (Option Statement)
  | .object fields =>
    match tagOf? (field fields "type") with
    | some .graph => do
      let id ← optionalText (field fields "id")
      return some (.graph .graph (!(field fields "strict").isBlank) id (← childrenOf fields))
    | some .digraph => do
      let id ← optionalText (field fields "id")
      return some (.graph .digraph (!(field fields "strict").isBlank) id (← childrenOf fields))
    | some .subgraph => do
      let id ← optionalText (field fields "id")
      return some (.subgraph id (← childrenOf fields))
    | some .node => do return some (← nodeOfFields fields)
    | some .edge => do return some (← edgeOfFields fields)
    | some .attr => attrOfFields fields
    | none => do
      .note (.droppedTag (field fields "type"))
      return none
  | value => .fail (.notStatement value.kind)

/-- The statements in the field of children. -/
def childrenOf : List (String × Json) → Journal LoadError (List Statement)
  | [] => return []
  | (name, value) :: rest =>
    if name = "children" then (if value.isBlank then return [] else ofElements value)
    else childrenOf rest

/-- The statements that a value holds. What a text or an object holds are texts, and no text is a
statement. -/
def ofElements : Json → Journal LoadError (List Statement)
  | .array items => ofItems items
  | .string value => if value.isEmpty then return [] else .fail (.notStatement .string)
  | .object fields => if fields.isEmpty then return [] else .fail (.notStatement .string)
  | value => .fail (.noElements value.kind)

def ofItems : List Json → Journal LoadError (List Statement)
  | [] => return []
  | item :: items => do
    let statement ← ofJson item
    let statements ← ofItems items
    return statement.toList ++ statements

end

end DotGraph.Statement
