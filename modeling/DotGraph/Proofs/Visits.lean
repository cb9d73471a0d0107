import DotGraph.Proofs.Contract

/-!
# What is visited when a value is loaded

A value is looked at, and if it is a graph or a subgraph, what its field of children holds is looked
at in turn, in the order of the document (`Json.visited`). What an object of another tag holds is
never looked at.
-/

namespace DotGraph

open Json (field)

namespace Json

open Statement (tagOf?)

/-- What a value holds, if it can be listed. -/
def contents (value : Json) : List Json := value.elements?.getD []

mutual

/-- A value with all that is visited below it. -/
def visited : Json → List Json
  | .object fields =>
    .object fields ::
      match tagOf? (field fields "type") with
      | some tag => if tag.isContainer then visitedChildren fields else []
      | none => []
  | value => [value]

def visitedChildren : List (String × Json) → List Json
  | [] => []
  | (name, value) :: rest =>
    if name = "children" then visitedElements value else visitedChildren rest

/-- A text and an object hold texts, below which nothing is visited. -/
def visitedElements : Json → List Json
  | .array items => visitedAll items
  | value => value.contents

def visitedAll : List Json → List Json
  | [] => []
  | item :: items => visited item ++ visitedAll items

end

theorem visitedAll_eq (items : List Json) : visitedAll items = items.flatMap visited := by
  induction items with
  | nil => rfl
  | cons item items ih => rw [visitedAll, ih, List.flatMap_cons]

theorem visitedAll_texts {α : Type} (text : α → String) (list : List α) :
    visitedAll (list.map fun a => .string (text a)) = list.map fun a => .string (text a) := by
  induction list with
  | nil => rfl
  | cons a list ih =>
    rw [List.map_cons, visitedAll, ih, visited]
    · rfl
    · rintro fields ⟨⟩

theorem visitedElements_eq (value : Json) : visitedElements value = visitedAll value.contents := by
  cases value with
  | array items => rfl
  | string value => exact (visitedAll_texts String.singleton value.toList).symm
  | object fields => exact (visitedAll_texts Prod.fst fields).symm
  | _ => rfl

theorem contents_of_isBlank {value : Json} (blank : value.isBlank = true) :
    value.contents = [] := by
  cases value with
  | array items => exact List.isEmpty_iff.mp blank
  | string value =>
    obtain rfl := String.isEmpty_iff.mp blank
    rfl
  | object fields =>
    obtain rfl := List.isEmpty_iff.mp blank
    rfl
  | _ => rfl

theorem visitedChildren_eq (fields : List (String × Json)) :
    visitedChildren fields = visitedAll (field fields "children").contents := by
  induction fields with
  | nil => rfl
  | cons entry fields ih =>
    obtain ⟨name, value⟩ := entry
    rw [visitedChildren, field, lookup_pair_cons]
    by_cases here : name = "children"
    · rw [if_pos here, if_pos here.symm, visitedElements_eq]
      rfl
    · rw [if_neg here, if_neg (Ne.symm here), ih]
      rfl

/-- What the field of children holds. -/
def children : Json → List Json
  | .object fields => (field fields "children").contents
  | _ => []

/-- What holds of a value if it holds of its children. -/
def Hereditary (P : Json → Prop) : Prop :=
  ∀ value : Json, (∀ child ∈ value.children, P child) → P value

mutual

theorem Hereditary.holds {P : Json → Prop} (step : Hereditary P) : ∀ value : Json, P value
  | .object fields => step (.object fields) (step.holds_children fields)
  | .null | .bool _ | .int _ | .float _ | .string _ | .array _ => step _ (List.forall_mem_nil _)

theorem Hereditary.holds_children {P : Json → Prop} (step : Hereditary P) :
    ∀ fields : List (String × Json), ∀ child ∈ (field fields "children").contents, P child
  | [] => List.forall_mem_nil _
  | (name, value) :: rest => by
    rw [field, lookup_pair_cons]
    by_cases here : "children" = name
    · rw [if_pos here]
      exact step.holds_contents value
    · rw [if_neg here]
      exact step.holds_children rest

theorem Hereditary.holds_contents {P : Json → Prop} (step : Hereditary P) :
    ∀ value : Json, ∀ child ∈ value.contents, P child
  | .array items => step.holds_items items
  | .string _ => List.forall_mem_map.mpr fun _ _ => step _ (List.forall_mem_nil _)
  | .object _ => List.forall_mem_map.mpr fun _ _ => step _ (List.forall_mem_nil _)
  | .null | .bool _ | .int _ | .float _ => List.forall_mem_nil _

theorem Hereditary.holds_items {P : Json → Prop} (step : Hereditary P) :
    ∀ items : List Json, ∀ item ∈ items, P item
  | [] => List.forall_mem_nil _
  | item :: items => List.forall_mem_cons.mpr ⟨step.holds item, step.holds_items items⟩

end

section Tagged

variable {fields : List (String × Json)} {tag : Tag}

theorem visited_container (tagged : field fields "type" = .string tag.name)
    (container : tag.isContainer = true) :
    visited (.object fields) =
      .object fields :: (children (.object fields)).flatMap visited := by
  rw [visited, Statement.tagOf?_eq_some_iff.mpr tagged, ← visitedAll_eq, children,
    ← visitedChildren_eq]
  exact congrArg _ (if_pos container)

theorem visited_plain (tagged : field fields "type" = .string tag.name)
    (plain : tag.isContainer = false) : visited (.object fields) = [.object fields] := by
  rw [visited, Statement.tagOf?_eq_some_iff.mpr tagged]
  exact congrArg _ (if_neg (Bool.eq_false_iff.mp plain))

theorem visited_untagged (untagged : ∀ tag : Tag, field fields "type" ≠ .string tag.name) :
    visited (.object fields) = [.object fields] := by
  rw [visited, Statement.tagOf?_eq_none untagged]

end Tagged

end Json

namespace Statement

/-- A list is read off what is blank and off what can be listed. -/
theorem elementsOrNone_eq (value : Json) :
    elementsOrNone value =
      if value.isBlank || value.elements?.isSome then .ok value.contents
      else .error (.noElements value.kind) := by
  unfold elementsOrNone elements
  cases blank : value.isBlank with
  | true => rw [Json.contents_of_isBlank blank]; rfl
  | false =>
    unfold Json.contents
    cases value.elements? <;> rfl

/-- The children are what is loaded from what their field holds. A text, of which there is at least
one in a string or an object that is not blank, is no statement. -/
theorem childrenOf_eq_ofItems (fields : List (String × Json)) :
    childrenOf fields = (do ofItems (← elementsOrNone (field fields "children"))) := by
  rw [childrenOf_eq]
  generalize field fields "children" = value
  unfold elementsOrNone elements
  cases blank : value.isBlank with
  | true =>
    change pure [] = ofItems []
    rw [ofItems]
  | false =>
    cases value with
    | array items => rfl
    | string value =>
      have some : ¬ value.isEmpty = true := Bool.eq_false_iff.mp blank
      obtain ⟨c, text, same⟩ := List.exists_cons_of_ne_nil fun none =>
        some (String.isEmpty_iff.mpr (String.toList_eq_nil_iff.mp none))
      change ofElements (.string value) = ofItems (value.toList.map _)
      rw [ofElements, if_neg some, same]
      rfl
    | object fields =>
      cases fields with
      | nil => cases blank
      | cons entry fields => rfl
    | _ => rfl

/-- The statement of a container with a tag. -/
def container (tag : Tag) (strict : Bool) (id : Option String) (children : List Statement) :
    Statement :=
  match tag with
  | .subgraph => .subgraph id children
  | tag => .graph tag strict id children

/-- All containers are loaded alike, from their ids and their children. -/
theorem ofJson_container {fields : List (String × Json)} {tag : Tag}
    (tagged : field fields "type" = .string tag.name) (isContainer : tag.isContainer = true) :
    ofJson (.object fields) = do
      let id ← optionalText (field fields "id")
      return some (container tag (!(field fields "strict").isBlank) id (← childrenOf fields)) := by
  cases tag with
  | graph => exact @ofJson_graph _ .graph tagged
  | digraph => exact @ofJson_graph _ .digraph tagged
  | subgraph => exact ofJson_subgraph tagged
  | _ => cases isContainer

end Statement

end DotGraph
