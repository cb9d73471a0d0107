import DotGraph.OrderedMap
import DotGraph.Statement.OfJson

/-!
# Loading by tags

What is loaded from an object depends on its tag and on the fields that are read for that tag: one
equation for each, and one for an object that is dropped.
-/

namespace DotGraph

open Json (field)

theorem Target.ofName?_eq_some_iff {name : String} {target : Target} :
    ofName? name = some target ↔ name = target.name := by
  constructor
  · intro found
    have same : target.name = name := by simpa using List.find?_some found
    exact same.symm
  · rintro rfl
    exact ofName?_name target

namespace Json

/-- A value that holds no other values. -/
def isScalar : Json → Bool
  | .array _ | .object _ => false
  | _ => true

/-- Blank, or a list. -/
def isListing : Json → Bool
  | .array _ => true
  | value => value.isBlank

def items : Json → List Json
  | .array items => items
  | _ => []

end Json

namespace Statement

theorem tagOf?_eq_some_iff {value : Json} {tag : Tag} :
    tagOf? value = some tag ↔ value = .string tag.name := by
  constructor
  · intro found
    unfold tagOf? at found
    split at found
    · exact congrArg Json.string (Tag.name_of_ofName? found).symm
    · cases found
  · rintro rfl
    exact Tag.ofName?_name tag

theorem tagOf?_eq_none {value : Json} (untagged : ∀ tag : Tag, value ≠ .string tag.name) :
    tagOf? value = none :=
  Option.eq_none_iff_forall_ne_some.mpr fun tag found =>
    untagged tag (tagOf?_eq_some_iff.mp found)

def targetOf? : Json → Option Target
  | .string name => Target.ofName? name
  | _ => none

theorem targetOf?_eq_some_iff {value : Json} {target : Target} :
    targetOf? value = some target ↔ value = .string target.name := by
  constructor
  · intro found
    unfold targetOf? at found
    split at found
    · exact congrArg Json.string (Target.ofName?_eq_some_iff.mp found)
    · cases found
  · rintro rfl
    exact Target.ofName?_name target

theorem ne_name_of_targetOf?_eq_none {value : Json} (none : targetOf? value = none)
    (target : Target) : value ≠ .string target.name := by
  intro same
  cases none.symm.trans (targetOf?_eq_some_iff.mpr same)

theorem childrenOf_eq (fields : List (String × Json)) :
    childrenOf fields =
      if (field fields "children").isBlank then pure []
      else ofElements (field fields "children") := by
  induction fields with
  | nil => rw [childrenOf]; rfl
  | cons entry fields ih =>
    obtain ⟨name, value⟩ := entry
    rw [childrenOf, field, lookup_pair_cons]
    by_cases here : name = "children"
    · rw [if_pos here, if_pos here.symm]
      rfl
    · rw [if_neg here, if_neg (Ne.symm here), ih]
      rfl

theorem elementsOrNone_listing {value : Json} (listing : value.isListing = true) :
    elementsOrNone value = .ok value.items := by
  cases value with
  | array items => cases items <;> rfl
  | _ => exact if_pos listing

theorem childrenOf_listing {fields : List (String × Json)}
    (listing : (field fields "children").isListing = true) :
    childrenOf fields = ofItems (field fields "children").items := by
  rw [childrenOf_eq]
  generalize field fields "children" = value at listing
  cases value with
  | array items =>
    rw [ofElements]
    cases items with
    | nil => rw [Json.items, ofItems, ite_self]
    | cons => rfl
  | _ =>
    refine (if_pos listing).trans ?_
    change pure [] = ofItems []
    rw [ofItems]

theorem childrenOf_array {fields : List (String × Json)} {items : List Json}
    (listed : field fields "children" = .array items) : childrenOf fields = ofItems items := by
  rw [childrenOf_listing (by rw [listed]; rfl), listed]
  rfl

section Tagged

variable {fields : List (String × Json)}

theorem ofJson_graph {kind : GraphKind} (tagged : field fields "type" = .string kind.name) :
    ofJson (.object fields) = do
      let id ← optionalText (field fields "id")
      let strict := !(field fields "strict").isBlank
      return some (.graph kind.tag strict id (← childrenOf fields)) := by
  have tag := tagOf?_eq_some_iff.mpr tagged
  cases kind <;> rw [ofJson, tag] <;> rfl

theorem ofJson_subgraph (tagged : field fields "type" = .string Tag.subgraph.name) :
    ofJson (.object fields) = do
      let id ← optionalText (field fields "id")
      return some (.subgraph id (← childrenOf fields)) := by
  rw [ofJson, tagOf?_eq_some_iff.mpr tagged]

theorem ofJson_node (tagged : field fields "type" = .string Tag.node.name) :
    ofJson (.object fields) = do return some (← nodeOfFields fields) := by
  rw [ofJson, tagOf?_eq_some_iff.mpr tagged]

theorem ofJson_edge (tagged : field fields "type" = .string Tag.edge.name) :
    ofJson (.object fields) = do return some (← edgeOfFields fields) := by
  rw [ofJson, tagOf?_eq_some_iff.mpr tagged]

theorem ofJson_attr (tagged : field fields "type" = .string Tag.attr.name) :
    ofJson (.object fields) = attrOfFields fields := by
  rw [ofJson, tagOf?_eq_some_iff.mpr tagged]

theorem ofJson_untagged (untagged : ∀ tag : Tag, field fields "type" ≠ .string tag.name) :
    ofJson (.object fields) = ⟨[.droppedTag (field fields "type")], .ok none⟩ := by
  rw [ofJson, tagOf?_eq_none untagged]
  rfl

theorem attrOfFields_known {target : Target}
    (aimed : field fields "target" = .string target.name) :
    attrOfFields fields = do return some (.attr target (← attrsField fields)) := by
  unfold attrOfFields
  rw [aimed]
  simp only [Target.ofName?_name]

theorem attrOfFields_unknown (scalar : (field fields "target").isScalar = true)
    (unknown : ∀ target : Target, field fields "target" ≠ .string target.name) :
    attrOfFields fields = ⟨[.droppedTarget (field fields "target")], .ok none⟩ := by
  unfold attrOfFields
  generalize field fields "target" = value at scalar unknown
  cases value with
  | array | object => cases scalar
  | string name =>
    have none : Target.ofName? name = none :=
      Option.eq_none_iff_forall_ne_some.mpr fun target found =>
        unknown target (congrArg Json.string (Target.ofName?_eq_some_iff.mp found))
    simp only [none]
    rfl
  | _ => rfl

theorem attrOfFields_compound (compound : (field fields "target").isScalar = false) :
    attrOfFields fields = .fail (.compoundTarget (field fields "target").kind) := by
  unfold attrOfFields
  generalize field fields "target" = value at compound
  cases value with
  | array | object => rfl
  | _ => cases compound

theorem attrsField_eq (fields : List (String × Json)) :
    attrsField fields = elementsOrNone (field fields "attr_list") >>= fun entries =>
      (entries.mapM attrItem?).map (List.filterMap id) := by
  unfold attrsField
  congr 1

theorem attrItem?_tagged (tagged : field fields "type" = .string "attr") :
    attrItem? (.object fields) = do
      match ← optionalText (field fields "id") with
      | none => return none
      | some key =>
        if key = "" then return none
        else return some (.pair key ((← optionalText (field fields "eq")).getD "")) := by
  unfold attrItem?
  dsimp only
  rw [tagged]
  exact if_pos rfl

theorem attrItem?_untagged (untagged : field fields "type" ≠ .string "attr") :
    attrItem? (.object fields) = .ok none := by
  unfold attrItem?
  dsimp only
  generalize field fields "type" = type at untagged
  cases type with
  | string tag => exact if_neg fun same => untagged (congrArg Json.string same)
  | _ => rfl

end Tagged

theorem attrItem?_of_kind {value : Json} (other : value.kind ≠ .object) :
    attrItem? value = .ok none := by
  cases value with
  | object => exact absurd rfl other
  | _ => rfl

end Statement

end DotGraph
