import DotGraph.Proofs.Loading
import Mathlib.Data.List.Basic

/-!
# Values out of contract

Loading a value fails exactly if there is a fault in it, and then the value is refused
(`Statement.ofJson_fails_iff_faulty`). Faults are told from the value alone (`Json.Faulty`); in and
below an object that is dropped there are none. Where a list is wanted, the value is taken to hold
one, or something blank (`Json.Regular`).
-/

namespace DotGraph

open Json (field)

/-- Whether the error says that a value is out of contract. The other errors say that something is
no list, or no name, where one is wanted. -/
def LoadError.isRefusal : LoadError → Bool
  | .noElements _ | .compoundTarget _ => false
  | _ => true

def Tag.isContainer : Tag → Bool
  | .graph | .digraph | .subgraph => true
  | .node | .edge | .attr => false

namespace Json

/-- Where the text of a value stands: in an object as its value. -/
def bare : Json → Json
  | .object fields => field fields "value"
  | value => value

/-- Absent, null, a truth value, a number or a string, or an object with such a value. -/
def isTextual (value : Json) : Bool := value.bare.isScalar

/-- Whether a value has a text, and not the empty one. -/
def hasText (value : Json) : Bool :=
  match value.bare with
  | .bool _ | .int _ | .float _ => true
  | .string text => text != ""
  | .null | .array _ | .object _ => false

/-- A port that is an object is given by its parts. -/
def isTextualPort : Json → Bool
  | .object fields => (field fields "id").isTextual && (field fields "compass_pt").isTextual
  | value => value.isTextual

/-- No reference to a node. -/
inductive FaultyRef : Json → Prop
  | notObject {value : Json} : value.kind ≠ .object → FaultyRef value
  | otherType {fields : List (String × Json)} {type : Json} :
      fields.lookup "type" = some type → type ≠ .string "node_id" → FaultyRef (.object fields)
  | noId {fields : List (String × Json)} : (field fields "id").bare = .null →
      FaultyRef (.object fields)
  | id {fields : List (String × Json)} : (field fields "id").isTextual = false →
      FaultyRef (.object fields)
  | port {fields : List (String × Json)} : (field fields "port").isTextualPort = false →
      FaultyRef (.object fields)

/-- A pair whose key is no text, or one with a key whose value is no text. -/
inductive FaultyEntry : Json → Prop
  | key {fields : List (String × Json)} : field fields "type" = .string "attr" →
      (field fields "id").isTextual = false → FaultyEntry (.object fields)
  | value {fields : List (String × Json)} : field fields "type" = .string "attr" →
      (field fields "id").hasText = true → (field fields "eq").isTextual = false →
      FaultyEntry (.object fields)

/-- An attribute list with a faulty entry. -/
def FaultyAttrs (fields : List (String × Json)) : Prop :=
  ∃ entry ∈ (field fields "attr_list").items, FaultyEntry entry

/-- A value that is out of contract, by itself or in what is loaded with it. -/
inductive Faulty : Json → Prop
  | notObject {value : Json} : value.kind ≠ .object → Faulty value
  | id {fields : List (String × Json)} {tag : Tag} : field fields "type" = .string tag.name →
      tag.isContainer = true → (field fields "id").isTextual = false → Faulty (.object fields)
  | child {fields : List (String × Json)} {tag : Tag} {child : Json} :
      field fields "type" = .string tag.name → tag.isContainer = true →
      child ∈ (field fields "children").items → Faulty child → Faulty (.object fields)
  | nodeRef {fields : List (String × Json)} : field fields "type" = .string Tag.node.name →
      FaultyRef (field fields "node_id") → Faulty (.object fields)
  | nodeAttrs {fields : List (String × Json)} : field fields "type" = .string Tag.node.name →
      FaultyAttrs fields → Faulty (.object fields)
  | endpoint {fields : List (String × Json)} {endpoint : Json} :
      field fields "type" = .string Tag.edge.name → endpoint ∈ (field fields "edge_list").items →
      FaultyRef endpoint → Faulty (.object fields)
  | edgeAttrs {fields : List (String × Json)} : field fields "type" = .string Tag.edge.name →
      FaultyAttrs fields → Faulty (.object fields)
  | targetAttrs {fields : List (String × Json)} {target : Target} :
      field fields "type" = .string Tag.attr.name →
      field fields "target" = .string target.name → FaultyAttrs fields → Faulty (.object fields)

/-- A value with lists where lists are wanted, and no list or object for the target of default
attributes; so are its children. -/
inductive Regular : Json → Prop
  | other {value : Json} : value.kind ≠ .object → Regular value
  | object {fields : List (String × Json)} :
      (field fields "children").isListing = true → (field fields "edge_list").isListing = true →
      (field fields "attr_list").isListing = true →
      (field fields "type" = .string Tag.attr.name → (field fields "target").isScalar = true) →
      (∀ child ∈ (field fields "children").items, Regular child) → Regular (.object fields)

end Json

/-! ### Outcomes that judge -/

/-- An outcome that is a refusal if there is a fault, and else a value. -/
inductive Judges {α : Type} (faulty : Prop) : Except LoadError α → Prop
  | refused {error : LoadError} : faulty → error.isRefusal = true → Judges faulty (.error error)
  | accepted (value : α) : ¬faulty → Judges faulty (.ok value)

namespace Judges

variable {α β : Type} {faulty further : Prop} {outcome : Except LoadError α}

theorem congr (judges : Judges faulty outcome) (same : faulty ↔ further) :
    Judges further outcome :=
  propext same ▸ judges

theorem isRefusal {error : LoadError} (judges : Judges faulty outcome)
    (failed : outcome = .error error) : error.isRefusal = true := by
  cases judges with
  | refused _ refusal =>
    cases failed
    exact refusal
  | accepted => cases failed

theorem fails_iff (judges : Judges faulty outcome) :
    (∃ error, outcome = .error error) ↔ faulty := by
  cases judges with
  | refused fault => exact ⟨fun _ => fault, fun _ => ⟨_, rfl⟩⟩
  | accepted value sound =>
    constructor
    · rintro ⟨error, failed⟩
      cases failed
    · intro fault
      exact absurd fault sound

theorem bind {next : α → Except LoadError β} (first : Judges faulty outcome)
    (later : ∀ value, outcome = .ok value → Judges further (next value)) :
    Judges (faulty ∨ further) (outcome >>= next) := by
  cases first with
  | refused fault refusal => exact .refused (.inl fault) refusal
  | accepted value sound => exact (later value rfl).congr (by simp [sound])

theorem map {f : α → β} (judges : Judges faulty outcome) :
    Judges faulty (outcome >>= fun value => pure (f value)) := by
  cases judges with
  | refused fault refusal => exact .refused fault refusal
  | accepted value sound => exact .accepted (f value) sound

/-- A list is read without a fault if each of its elements is. -/
theorem mapM {fault : α → Prop} {read : α → Except LoadError β} {list : List α}
    (each : ∀ a ∈ list, Judges (fault a) (read a)) :
    Judges (∃ a ∈ list, fault a) (list.mapM read) := by
  induction list with
  | nil => exact .accepted [] (by simp)
  | cons a list ih =>
    rw [List.mapM_cons]
    have first := each a List.mem_cons_self
    have rest := ih fun b member => each b (List.mem_cons_of_mem a member)
    exact (first.bind fun _ _ => rest.map).congr (List.exists_mem_cons_iff ..).symm

end Judges

/-! ### Texts -/

theorem Binary64.Decimal.text_ne_nil (decimal : Decimal) : decimal.text ≠ [] := by
  unfold text
  dsimp only
  split
  · unfold positional
    split <;> simp
  · simp [scientific]

theorem Binary64.text_ne_empty (number : Binary64) : number.text ≠ "" := by
  cases number with
  | nan | infinite => simp [text]
  | finite negative significand exponent =>
    simp only [text]
    split <;> simp [Decimal.text_ne_nil]

namespace Statement

theorem int_repr_ne_empty (n : Int) : n.repr ≠ "" := by
  cases n with
  | ofNat n => exact Nat.repr_ne_empty
  | negSucc n => simp [Int.repr]

theorem optionalText_eq (value : Json) : optionalText value = scalarText value.bare := by
  cases value <;> rfl

theorem judges_optionalText (value : Json) :
    Judges (value.isTextual = false) (optionalText value) := by
  rw [optionalText_eq]
  unfold Json.isTextual
  cases value.bare with
  | array | object => exact .refused rfl rfl
  | float number =>
    unfold scalarText
    dsimp only
    cases number.toInt? <;> exact .accepted _ (by simp [Json.isScalar])
  | _ => exact .accepted _ (by simp [Json.isScalar])

theorem bare_eq_null_iff {value : Json} {text : Option String}
    (found : optionalText value = .ok text) : value.bare = .null ↔ text = none := by
  rw [optionalText_eq] at found
  generalize value.bare = bare at found
  cases bare with
  | array | object => cases found
  | float number =>
    simp only [scalarText] at found
    split at found <;> cases found <;> simp
  | _ => cases found; simp

theorem hasText_iff {value : Json} {text : Option String}
    (found : optionalText value = .ok text) : value.hasText = true ↔ text.getD "" ≠ "" := by
  rw [optionalText_eq] at found
  unfold Json.hasText
  generalize value.bare = bare at found
  cases bare with
  | array | object => cases found
  | bool truth => cases found; cases truth <;> simp
  | float number =>
    simp only [scalarText] at found
    split at found <;> cases found <;> simp [int_repr_ne_empty, Binary64.text_ne_empty]
  | int number => cases found; simpa using int_repr_ne_empty number
  | null | string => cases found; simp

theorem judges_portText (value : Json) :
    Judges (value.isTextualPort = false) (portText value) := by
  cases value with
  | object fields =>
    have name := judges_optionalText (field fields "id")
    have compass := judges_optionalText (field fields "compass_pt")
    refine (name.bind fun _ _ => compass.bind fun _ _ => .accepted _ not_false).congr ?_
    rw [or_false, Json.isTextualPort, Bool.and_eq_false_iff]
  | _ => exact judges_optionalText _

/-! ### References -/

theorem isNodeRef_iff {fields : List (String × Json)} :
    isNodeRef fields = true ↔
      ∀ type, fields.lookup "type" = some type → type = .string "node_id" := by
  unfold isNodeRef
  cases fields.lookup "type" with
  | none => simp
  | some type => cases type <;> simp

theorem faultyRef_iff {fields : List (String × Json)} (isRef : isNodeRef fields = true) :
    (Json.object fields).FaultyRef ↔ (field fields "id").isTextual = false ∨
      (field fields "id").bare = .null ∨ (field fields "port").isTextualPort = false := by
  constructor
  · intro fault
    cases fault with
    | notObject other => exact absurd rfl other
    | otherType typed other => exact absurd (isNodeRef_iff.mp isRef _ typed) other
    | noId absent => exact .inr (.inl absent)
    | id compound => exact .inl compound
    | port compound => exact .inr (.inr compound)
  · rintro (compound | absent | compound)
    · exact .id compound
    · exact .noId absent
    · exact .port compound

/-- A reference where one is needed. -/
def requireRef (error : LoadError) (value : Json) : Except LoadError NodeRef := do
  match ← nodeRef? value with
  | none => throw error
  | some ref => return ref

theorem requireRef_object {fields : List (String × Json)} (isRef : isNodeRef fields = true)
    (error : LoadError) :
    requireRef error (.object fields) = optionalText (field fields "id") >>= fun
      | none => .error error
      | some id => portText (field fields "port") >>= fun port => pure ⟨id, port⟩ := by
  simp only [requireRef, nodeRef?, isRef, if_true]
  cases optionalText (field fields "id") with
  | error => rfl
  | ok text =>
    cases text with
    | none => rfl
    | some id => cases portText (field fields "port") <;> rfl

theorem judges_requireRef {error : LoadError} (refusal : error.isRefusal = true) (value : Json) :
    Judges value.FaultyRef (requireRef error value) := by
  cases value with
  | object fields =>
    cases isRef : isNodeRef fields with
    | false =>
      obtain ⟨type, typed, other⟩ : ∃ type, fields.lookup "type" = some type ∧
          type ≠ .string "node_id" := by
        simpa [isRef] using not_congr (@isNodeRef_iff fields)
      simp only [requireRef, nodeRef?, isRef]
      exact .refused (.otherType typed other) refusal
    | true =>
      rw [requireRef_object isRef, faultyRef_iff isRef]
      refine (judges_optionalText _).bind fun text found => ?_
      rw [bare_eq_null_iff found]
      cases text with
      | none => exact .refused (.inl rfl) refusal
      | some id => exact (judges_portText _).map.congr (by simp)
  | _ => exact .refused (.notObject nofun) refusal

/-- All references of a chain, or none of them. -/
def requireRefs (values : List Json) : Except LoadError (List NodeRef) := do
  match allSome (← values.mapM nodeRef?) with
  | none => throw .badEndpoint
  | some chain => return chain

theorem requireRefs_cons_of_some {value : Json} {ref : NodeRef}
    (found : nodeRef? value = .ok (some ref)) (values : List Json) :
    requireRefs (value :: values) = requireRefs values >>= fun chain => pure (ref :: chain) := by
  unfold requireRefs
  rw [List.mapM_cons, found]
  cases values.mapM nodeRef? with
  | error => rfl
  | ok refs =>
    simp only [bind, Except.bind, pure, Except.pure, allSome]
    cases allSome refs <;> rfl

/-- A chain with a fault in front fails, at the fault or at a later one. -/
theorem exists_requireRefs_cons {value : Json} {values : List Json} {error : LoadError}
    (fault : requireRef .badEndpoint value = .error error) :
    requireRefs (value :: values) = .error error ∨
      ∃ later, requireRefs values = .error later ∧
        requireRefs (value :: values) = .error later := by
  unfold requireRef at fault
  unfold requireRefs
  rw [List.mapM_cons]
  cases found : nodeRef? value with
  | error error' =>
    rw [found] at fault
    cases fault
    exact .inl rfl
  | ok ref =>
    rw [found] at fault
    cases ref with
    | some ref => cases fault
    | none =>
      cases fault
      -- the others are read before the one that is missing is noticed
      cases values.mapM nodeRef? with
      | error later => exact .inr ⟨later, rfl, rfl⟩
      | ok refs => exact .inl rfl

theorem nodeRef?_of_requireRef {error : LoadError} {value : Json} {ref : NodeRef}
    (found : requireRef error value = .ok ref) : nodeRef? value = .ok (some ref) := by
  obtain ⟨taken, read, found⟩ := bind_eq_ok.mp found
  cases taken with
  | none => cases found
  | some taken =>
    cases found
    exact read

theorem judges_requireRefs (values : List Json) :
    Judges (∃ value ∈ values, value.FaultyRef) (requireRefs values) := by
  induction values with
  | nil => exact .accepted [] (by simp)
  | cons value values ih =>
    have first : Judges value.FaultyRef (requireRef .badEndpoint value) :=
      judges_requireRef rfl value
    cases found : requireRef .badEndpoint value with
    | ok ref =>
      rw [found] at first
      cases first with
      | accepted _ sound =>
        rw [requireRefs_cons_of_some (nodeRef?_of_requireRef found)]
        exact ih.map.congr (by rw [List.exists_mem_cons_iff, or_iff_right sound])
    | error error =>
      have fault : ∃ other ∈ value :: values, other.FaultyRef :=
        ⟨value, List.mem_cons_self, first.fails_iff.mp ⟨error, found⟩⟩
      obtain failed | ⟨later, failed, same⟩ := exists_requireRefs_cons found
      · rw [failed]
        exact .refused fault (first.isRefusal found)
      · rw [same]
        exact .refused fault (ih.isRefusal failed)

/-! ### Attribute lists -/

theorem faultyEntry_iff {fields : List (String × Json)}
    (tagged : field fields "type" = .string "attr") :
    (Json.object fields).FaultyEntry ↔ (field fields "id").isTextual = false ∨
      ((field fields "id").hasText = true ∧ (field fields "eq").isTextual = false) := by
  constructor
  · rintro (⟨-, compound⟩ | ⟨-, key, compound⟩)
    · exact .inl compound
    · exact .inr ⟨key, compound⟩
  · rintro (compound | ⟨key, compound⟩)
    · exact .key tagged compound
    · exact .value tagged key compound

theorem judges_attrItem? (value : Json) : Judges value.FaultyEntry (attrItem? value) := by
  cases value with
  | object fields =>
    by_cases tagged : field fields "type" = .string "attr"
    · rw [attrItem?_tagged tagged, faultyEntry_iff tagged]
      refine (judges_optionalText _).bind fun text found => ?_
      -- the value is looked at only if there is a key
      rw [hasText_iff found]
      cases text with
      | none => exact .accepted none (by simp)
      | some key =>
        by_cases empty : key = ""
        · simp only [if_pos empty]
          exact .accepted none (by simp [empty])
        · simp only [if_neg empty]
          exact (judges_optionalText _).map.congr (by simp [empty])
    · rw [attrItem?_untagged tagged]
      refine .accepted none ?_
      rintro (⟨pair, -⟩ | ⟨pair, -, -⟩) <;> exact tagged pair
  | _ => exact .accepted none (by rintro ⟨⟩)

theorem judges_attrsField {fields : List (String × Json)}
    (listing : (field fields "attr_list").isListing = true) :
    Judges (Json.FaultyAttrs fields) (attrsField fields) := by
  unfold attrsField
  rw [elementsOrNone_listing listing]
  exact (Judges.mapM fun entry _ => judges_attrItem? entry).map

/-! ### Statements -/

/-- What is wrong with fields, given the tag among them. -/
def FaultyFields (fields : List (String × Json)) : Tag → Prop
  | .graph | .digraph | .subgraph =>
    (field fields "id").isTextual = false ∨
      ∃ child ∈ (field fields "children").items, child.Faulty
  | .node => (field fields "node_id").FaultyRef ∨ Json.FaultyAttrs fields
  | .edge =>
    (∃ endpoint ∈ (field fields "edge_list").items, endpoint.FaultyRef) ∨ Json.FaultyAttrs fields
  | .attr => ∃ target : Target, field fields "target" = .string target.name ∧
      Json.FaultyAttrs fields

theorem faulty_iff {fields : List (String × Json)} {tag : Tag}
    (tagged : field fields "type" = .string tag.name) :
    (Json.object fields).Faulty ↔ FaultyFields fields tag := by
  have only {other : Tag} (also : field fields "type" = .string other.name) : other = tag :=
    Option.some.inj ((tagOf?_eq_some_iff.mpr also).symm.trans (tagOf?_eq_some_iff.mpr tagged))
  constructor
  · intro fault
    cases fault with
    | notObject other => exact absurd rfl other
    | id also container compound =>
      cases only also
      cases tag with
      | graph | digraph | subgraph => exact .inl compound
      | _ => cases container
    | child also container member fault =>
      cases only also
      cases tag with
      | graph | digraph | subgraph => exact .inr ⟨_, member, fault⟩
      | _ => cases container
    | nodeRef also fault =>
      cases only also
      exact .inl fault
    | nodeAttrs also fault =>
      cases only also
      exact .inr fault
    | endpoint also member fault =>
      cases only also
      exact .inl ⟨_, member, fault⟩
    | edgeAttrs also fault =>
      cases only also
      exact .inr fault
    | targetAttrs also aimed fault =>
      cases only also
      exact ⟨_, aimed, fault⟩
  · intro fault
    cases tag with
    | graph | digraph | subgraph =>
      obtain compound | ⟨child, member, fault⟩ := fault
      · exact .id tagged rfl compound
      · exact .child tagged rfl member fault
    | node => exact fault.elim (.nodeRef tagged) (.nodeAttrs tagged)
    | edge =>
      obtain ⟨endpoint, member, fault⟩ | fault := fault
      · exact .endpoint tagged member fault
      · exact .edgeAttrs tagged fault
    | attr =>
      obtain ⟨target, aimed, fault⟩ := fault
      exact .targetAttrs tagged aimed fault

theorem not_faulty_of_untagged {fields : List (String × Json)}
    (untagged : ∀ tag : Tag, field fields "type" ≠ .string tag.name) :
    ¬(Json.object fields).Faulty := by
  intro fault
  cases fault with
  | notObject other => exact other rfl
  | id tagged | child tagged | nodeRef tagged | nodeAttrs tagged | endpoint tagged
  | edgeAttrs tagged | targetAttrs tagged => exact untagged _ tagged

theorem judges_nodeOfFields {fields : List (String × Json)}
    (listing : (field fields "attr_list").isListing = true) :
    Judges (FaultyFields fields .node) (nodeOfFields fields) := by
  have same : nodeOfFields fields = requireRef .missingNodeId (field fields "node_id") >>=
      fun ref => attrsField fields >>= fun items => pure (.node ref items) := by
    unfold nodeOfFields requireRef
    cases nodeRef? (field fields "node_id") with
    | error => rfl
    | ok ref => cases ref <;> rfl
  rw [same]
  exact (judges_requireRef rfl _).bind fun _ _ => (judges_attrsField listing).map

theorem judges_edgeOfFields {fields : List (String × Json)}
    (chained : (field fields "edge_list").isListing = true)
    (listing : (field fields "attr_list").isListing = true) :
    Judges (FaultyFields fields .edge) (edgeOfFields fields) := by
  have same : edgeOfFields fields = requireRefs (field fields "edge_list").items >>=
      fun chain => attrsField fields >>= fun items => pure (.edge chain items) := by
    unfold edgeOfFields requireRefs
    rw [elementsOrNone_listing chained]
    simp only [bind, Except.bind]
    cases (field fields "edge_list").items.mapM nodeRef? with
    | error => rfl
    | ok refs =>
      dsimp only
      cases allSome refs <;> rfl
  rw [same]
  exact (judges_requireRefs _).bind fun _ _ => (judges_attrsField listing).map

theorem judges_attrOfFields {fields : List (String × Json)}
    (scalar : (field fields "target").isScalar = true)
    (listing : (field fields "attr_list").isListing = true) :
    Judges (FaultyFields fields .attr) (attrOfFields fields).outcome := by
  by_cases known : ∃ target : Target, field fields "target" = .string target.name
  · obtain ⟨target, aimed⟩ := known
    rw [attrOfFields_known aimed, Journal.outcome_bind]
    refine (judges_attrsField listing).map.congr ⟨fun fault => ⟨target, aimed, fault⟩, ?_⟩
    rintro ⟨-, -, fault⟩
    exact fault
  · rw [attrOfFields_unknown scalar (not_exists.mp known)]
    exact .accepted none fun ⟨target, aimed, _⟩ => known ⟨target, aimed⟩

theorem judges_ofItems {items : List Json}
    (each : ∀ item ∈ items, Judges item.Faulty (ofJson item).outcome) :
    Judges (∃ item ∈ items, item.Faulty) (ofItems items).outcome := by
  induction items with
  | nil => exact .accepted [] (by simp)
  | cons item items ih =>
    have first := each item List.mem_cons_self
    have rest := ih fun other member => each other (List.mem_cons_of_mem item member)
    rw [ofItems, Journal.outcome_bind]
    refine (first.bind fun found _ => ?_).congr (List.exists_mem_cons_iff ..).symm
    rw [Journal.outcome_bind]
    exact rest.map

theorem judges_childrenOf {fields : List (String × Json)}
    (listing : (field fields "children").isListing = true)
    (each : ∀ child ∈ (field fields "children").items, Judges child.Faulty (ofJson child).outcome) :
    Judges (∃ child ∈ (field fields "children").items, child.Faulty)
      (childrenOf fields).outcome := by
  rw [childrenOf_listing listing]
  exact judges_ofItems each

theorem judges_container {fields : List (String × Json)} {faulty : Prop}
    (children : Judges faulty (childrenOf fields).outcome)
    (build : Option String → List Statement → Statement) :
    Judges ((field fields "id").isTextual = false ∨ faulty)
      (do
        let id ← optionalText (field fields "id")
        return some (build id (← childrenOf fields)) :
          Journal LoadError (Option Statement)).outcome := by
  rw [Journal.outcome_bind]
  refine (judges_optionalText _).bind fun id _ => ?_
  rw [Journal.outcome_bind]
  exact children.map

theorem judges_ofJson {value : Json} (regular : value.Regular) :
    Judges value.Faulty (ofJson value).outcome := by
  induction regular with
  | @other value apart =>
    cases value with
    | object => exact absurd rfl apart
    | _ => exact .refused (.notObject apart) rfl
  | @object fields nested chained listing scalar _ ih =>
    have children := judges_childrenOf nested ih
    by_cases tagged : ∃ tag : Tag, field fields "type" = .string tag.name
    · obtain ⟨tag, tagged⟩ := tagged
      rw [faulty_iff tagged]
      cases tag with
      | graph =>
        rw [@ofJson_graph _ .graph tagged]
        exact judges_container children _
      | digraph =>
        rw [@ofJson_graph _ .digraph tagged]
        exact judges_container children _
      | subgraph =>
        rw [ofJson_subgraph tagged]
        exact judges_container children _
      | node =>
        rw [ofJson_node tagged, Journal.outcome_bind]
        exact (judges_nodeOfFields listing).map
      | edge =>
        rw [ofJson_edge tagged, Journal.outcome_bind]
        exact (judges_edgeOfFields chained listing).map
      | attr =>
        rw [ofJson_attr tagged]
        exact judges_attrOfFields (scalar tagged) listing
    · have untagged := not_exists.mp tagged
      rw [ofJson_untagged untagged]
      exact .accepted none (not_faulty_of_untagged untagged)

/-- To load a value whose lists are lists fails exactly if there is a fault in it, and then the
value is refused. -/
theorem ofJson_fails_iff_faulty {value : Json} (regular : value.Regular) :
    ((∃ error, (ofJson value).outcome = .error error) ↔ value.Faulty) ∧
      ∀ error, (ofJson value).outcome = .error error → error.isRefusal = true :=
  have judged := judges_ofJson regular
  ⟨judged.fails_iff, fun _ failed => judged.isRefusal failed⟩

/-- A list for the value of an attribute, at an edge of a subgraph that stands after a comment with
a text for a child; a number in its place is no fault. -/
theorem ofJson_fails_iff_faulty_nested :
    let comment : Json := .object [("type", .string "comment"), ("children", .array [.string "a"])]
    let entry (width : Json) : Json :=
      .object [("type", .string "attr"), ("id", .string "width"), ("eq", width)]
    let edge (width : Json) : Json :=
      .object [("type", .string "edge_stmt"),
        ("edge_list", .array [.object [("id", .string "a")], .object [("id", .bool true)]]),
        ("attr_list", .array [entry width])]
    let subgraph (width : Json) : Json :=
      .object [("type", .string "subgraph"), ("id", .object [("value", .int 1)]),
        ("children", .array [edge width])]
    let graph (width : Json) : Json :=
      .object [("type", .string "digraph"), ("children", .array [comment, subgraph width])]
    ((graph (.array [])).Regular ∧ (graph (.array [])).Faulty ∧
      ∃ error, (ofJson (graph (.array []))).outcome = .error error ∧ error.isRefusal = true) ∧
    (graph (.int 0)).Regular ∧ ¬(graph (.int 0)).Faulty := by
  intro comment entry edge subgraph graph
  have regular (width : Json) : (graph width).Regular := by
    have inner : (edge width).Regular :=
      .object rfl rfl rfl (by simp [field, Tag.name]) fun child member => by cases member
    have middle : (subgraph width).Regular :=
      .object rfl rfl rfl (by simp [field, Tag.name]) fun child member => by
        rwa [List.mem_singleton.mp member]
    have aside : comment.Regular :=
      .object rfl rfl rfl (by simp [field, Tag.name]) fun child member => by
        rw [List.mem_singleton.mp member]
        exact .other (by decide)
    refine .object rfl rfl rfl (by simp [field, Tag.name]) fun child member => ?_
    obtain rfl | rest := List.mem_cons.mp member
    · exact aside
    · rwa [List.mem_singleton.mp rest]
  have fault : (graph (.array [])).Faulty := by
    have inner : (entry (.array [])).FaultyEntry := .value rfl rfl rfl
    have middle : (edge (.array [])).Faulty :=
      .edgeAttrs rfl ⟨_, List.mem_singleton_self _, inner⟩
    have outer : (subgraph (.array [])).Faulty :=
      @Json.Faulty.child _ .subgraph _ rfl rfl (List.mem_singleton_self _) middle
    exact @Json.Faulty.child _ .digraph _ rfl rfl
      (List.mem_cons_of_mem _ (List.mem_singleton_self _)) outer
  obtain ⟨fails, refused⟩ := ofJson_fails_iff_faulty (regular (.array []))
  obtain ⟨error, failed⟩ := fails.mpr fault
  refine ⟨⟨regular _, fault, error, failed, refused error failed⟩, regular _, fun fault => ?_⟩
  obtain ⟨error, failed⟩ := (ofJson_fails_iff_faulty (regular (.int 0))).1.mpr fault
  have loaded : (ofJson (graph (.int 0))).outcome = .ok (some (.graph .digraph false none
      [.subgraph (some "1") [.edge [⟨"a", none⟩, ⟨"true", none⟩] [.pair "width" "0"]]])) :=
    rfl
  rw [loaded] at failed
  cases failed

end Statement

end DotGraph
