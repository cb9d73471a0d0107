import DotGraph.Proofs.Untyped
import DotGraph.Proofs.Visits

/-!
# Which error a value has

What is wrong with a value by itself can be listed, in the order in which it is noticed
(`Json.flaws`). Loading fails with the first flaw of the first value with one, of those that it
visits. So it refuses what is out of contract unless that flaw is a value that is no list, or no
name, where one is wanted (`Statement.refuses_unless_misfit`).

Integers are of any length here and values nested to any depth. A host may bound how many digits of
an integer it writes as text, and how deep it recurses: the exact error is that of a value within
such bounds.
-/

namespace DotGraph

open Json (field)

namespace Json

/-! ### Flaws -/

def textFlaws (value : Json) : List LoadError :=
  if value.isTextual then [] else [.notText value.bare.kind]

def portFlaws : Json → List LoadError
  | .object fields => textFlaws (field fields "id") ++ textFlaws (field fields "compass_pt")
  | value => textFlaws value

/-- Whether a value is a reference with an id. -/
def namesNode : Json → Bool
  | .object fields => Statement.isNodeRef fields && (field fields "id").bare.kind != .null
  | _ => false

/-- The flaws in a reference. What is no reference is not looked into, and neither is the port of
one without an id. -/
def refFlaws : Json → List LoadError
  | .object fields =>
    if Statement.isNodeRef fields then
      textFlaws (field fields "id") ++
        if (field fields "id").bare.kind = .null then [] else portFlaws (field fields "port")
    else []
  | _ => []

/-- Whether fields are those of a pair in an attribute list. -/
def isPair (fields : List (String × Json)) : Bool :=
  match field fields "type" with
  | .string tag => tag == "attr"
  | _ => false

/-- The flaws in an entry of an attribute list, where the value of a pair without a key is not
looked at. -/
def entryFlaws : Json → List LoadError
  | .object fields =>
    if isPair fields then
      textFlaws (field fields "id") ++
        if (field fields "id").hasText then textFlaws (field fields "eq") else []
    else []
  | _ => []

/-- Whether a value may stand where a list is wanted: it is blank, or it holds others. -/
def isListable (value : Json) : Bool := value.isBlank || value.elements?.isSome

def listFlaws (value : Json) : List LoadError :=
  if value.isListable then [] else [.noElements value.kind]

def attrsFlaws (fields : List (String × Json)) : List LoadError :=
  listFlaws (field fields "attr_list") ++ (field fields "attr_list").contents.flatMap entryFlaws

/-- The flaws of fields with a tag among them, without those of the children. -/
def fieldsFlaws (fields : List (String × Json)) : Tag → List LoadError
  | .graph | .digraph | .subgraph =>
    textFlaws (field fields "id") ++ listFlaws (field fields "children")
  | .node =>
    refFlaws (field fields "node_id") ++
      ((if (field fields "node_id").namesNode then [] else [.missingNodeId]) ++ attrsFlaws fields)
  | .edge =>
    listFlaws (field fields "edge_list") ++ ((field fields "edge_list").contents.flatMap refFlaws ++
      ((if (field fields "edge_list").contents.all namesNode then [] else [.badEndpoint]) ++
        attrsFlaws fields))
  | .attr =>
    if (field fields "target").isScalar then
      if (Statement.targetOf? (field fields "target")).isSome then attrsFlaws fields else []
    else [.compoundTarget (field fields "target").kind]

/-- What is wrong with a value that is visited, by itself. -/
def flaws : Json → List LoadError
  | .object fields =>
    match Statement.tagOf? (field fields "type") with
    | some tag => fieldsFlaws fields tag
    | none => []
  | value => [.notStatement value.kind]

/-- Whether fields with a tag hold something that is no list where one is wanted, or a list or an
object where a name is. -/
def misfitFields (fields : List (String × Json)) : Tag → Bool
  | .graph | .digraph | .subgraph => !(field fields "children").isListable
  | .node => !(field fields "attr_list").isListable
  | .edge => !(field fields "edge_list").isListable || !(field fields "attr_list").isListable
  | .attr =>
    !(field fields "target").isScalar ||
      ((Statement.targetOf? (field fields "target")).isSome &&
        !(field fields "attr_list").isListable)

def isMisfit : Json → Bool
  | .object fields =>
    match Statement.tagOf? (field fields "type") with
    | some tag => misfitFields fields tag
    | none => false
  | _ => false

/-- The first flaw of what is visited from a list on. -/
def firstFlaw? (data : List Json) : Option LoadError :=
  ((data.flatMap visited).flatMap flaws).head?

/-- No value that is visited from a list on is a misfit. -/
def Fits (data : List Json) : Prop := ∀ item ∈ data.flatMap visited, item.isMisfit = false

theorem flaws_tagged {fields : List (String × Json)} {tag : Tag}
    (tagged : field fields "type" = .string tag.name) :
    flaws (.object fields) = fieldsFlaws fields tag := by
  simp only [flaws, Statement.tagOf?_eq_some_iff.mpr tagged]

theorem fieldsFlaws_container {fields : List (String × Json)} {tag : Tag}
    (isContainer : tag.isContainer = true) :
    fieldsFlaws fields tag =
      textFlaws (field fields "id") ++ listFlaws (field fields "children") := by
  cases tag with
  | graph | digraph | subgraph => rfl
  | _ => cases isContainer

theorem flaws_untagged {fields : List (String × Json)}
    (untagged : ∀ tag : Tag, field fields "type" ≠ .string tag.name) :
    flaws (.object fields) = [] := by
  simp only [flaws, Statement.tagOf?_eq_none untagged]

theorem isPair_iff {fields : List (String × Json)} :
    isPair fields = true ↔ field fields "type" = .string "attr" := by
  unfold isPair
  cases field fields "type" <;> simp

end Json

/-! ### Misfits -/

namespace Json

@[simp] theorem all_textFlaws (value : Json) :
    value.textFlaws.all LoadError.isRefusal = true := by
  unfold textFlaws
  split <;> rfl

@[simp] theorem all_portFlaws (value : Json) :
    value.portFlaws.all LoadError.isRefusal = true := by
  cases value with
  | object fields => rw [portFlaws, List.all_append, all_textFlaws, all_textFlaws]; rfl
  | _ => exact all_textFlaws _

@[simp] theorem all_refFlaws (value : Json) : value.refFlaws.all LoadError.isRefusal = true := by
  cases value with
  | object fields =>
    rw [refFlaws]
    split
    · split <;> simp
    · rfl
  | _ => rfl

@[simp] theorem all_entryFlaws (value : Json) :
    value.entryFlaws.all LoadError.isRefusal = true := by
  cases value with
  | object fields =>
    rw [entryFlaws]
    split
    · split <;> simp
    · rfl
  | _ => rfl

@[simp] theorem all_listFlaws (value : Json) :
    value.listFlaws.all LoadError.isRefusal = value.isListable := by
  unfold listFlaws
  cases value.isListable <;> rfl

theorem all_flatMap {own : Json → List LoadError}
    (each : ∀ value, (own value).all LoadError.isRefusal = true) (values : List Json) :
    (values.flatMap own).all LoadError.isRefusal = true := by
  rw [List.all_flatMap]
  exact List.all_eq_true.mpr fun value _ => each value

@[simp] theorem all_attrsFlaws (fields : List (String × Json)) :
    (attrsFlaws fields).all LoadError.isRefusal = (field fields "attr_list").isListable := by
  rw [attrsFlaws, List.all_append, all_listFlaws, all_flatMap all_entryFlaws, Bool.and_true]

/-- The flaws that are no refusals are those of misfits. -/
theorem all_flaws (value : Json) : value.flaws.all LoadError.isRefusal = !value.isMisfit := by
  cases value with
  | object fields =>
    unfold flaws isMisfit
    dsimp only
    cases Statement.tagOf? (field fields "type") with
    | none => rfl
    | some tag =>
      cases tag with
      | graph | digraph | subgraph => simp [fieldsFlaws, misfitFields]
      | node =>
        simp only [fieldsFlaws, misfitFields]
        split <;> simp [LoadError.isRefusal]
      | edge =>
        simp only [fieldsFlaws, misfitFields]
        split <;> simp [LoadError.isRefusal, all_flatMap all_refFlaws]
      | attr =>
        simp only [fieldsFlaws, misfitFields]
        generalize field fields "target" = target
        cases scalar : target.isScalar with
        | false =>
          cases target with
          | array | object => rfl
          | _ => cases scalar
        | true => cases Statement.targetOf? target <;> simp
  | _ => rfl

theorem Fits.isRefusal {data : List Json} (fits : Fits data) {flaw : LoadError}
    (first : firstFlaw? data = some flaw) : flaw.isRefusal = true := by
  obtain ⟨item, seen, own⟩ := List.mem_flatMap.mp (List.mem_of_head? first)
  have refused := all_flaws item
  rw [fits item seen] at refused
  exact List.all_eq_true.mp refused flaw own

end Json

/-! ### Outcomes that report -/

open Json (textFlaws portFlaws refFlaws entryFlaws listFlaws attrsFlaws fieldsFlaws flaws visited
  namesNode isPair)

/-- An outcome that is the first of some flaws, or a value if there are none. -/
inductive Reports {α : Type} : List LoadError → Except LoadError α → Prop
  | error (error : LoadError) (later : List LoadError) : Reports (error :: later) (.error error)
  | ok (value : α) : Reports [] (.ok value)

namespace Reports

variable {α β : Type} {first further : List LoadError} {outcome : Except LoadError α}

theorem eq_error_iff (reports : Reports first outcome) {error : LoadError} :
    outcome = .error error ↔ first.head? = some error := by
  cases reports with
  | error error' later => rw [Except.error.injEq, List.head?_cons, Option.some.injEq]
  | ok value =>
    constructor
    · rintro ⟨⟩
    · rintro ⟨⟩

theorem bind {next : α → Except LoadError β} (reports : Reports first outcome)
    (later : ∀ value, outcome = .ok value → Reports further (next value)) :
    Reports (first ++ further) (outcome >>= next) := by
  cases reports with
  | error error more => exact .error error (more ++ further)
  | ok value => exact later value rfl

theorem map {f : α → β} (reports : Reports first outcome) :
    Reports first (outcome >>= fun value => pure (f value)) := by
  cases reports with
  | error error more => exact .error error more
  | ok value => exact .ok (f value)

theorem mapM {flaws : α → List LoadError} {read : α → Except LoadError β} {list : List α}
    (each : ∀ a ∈ list, Reports (flaws a) (read a)) :
    Reports (list.flatMap flaws) (list.mapM read) := by
  induction list with
  | nil => exact .ok []
  | cons a list ih =>
    obtain ⟨head, tail⟩ := List.forall_mem_cons.mp each
    rw [List.mapM_cons, List.flatMap_cons]
    exact head.bind fun _ _ => (ih tail).map

end Reports

namespace Statement

theorem reports_optionalText (value : Json) : Reports (textFlaws value) (optionalText value) := by
  rw [optionalText_eq]
  unfold textFlaws Json.isTextual
  cases value.bare with
  | array | object => exact .error _ []
  | float number =>
    unfold scalarText
    dsimp only
    cases number.toInt? <;> exact .ok _
  | _ => exact .ok _

theorem kind_bare_eq_null_iff {value : Json} {text : Option String}
    (found : optionalText value = .ok text) : value.bare.kind = .null ↔ text = none := by
  rw [← bare_eq_null_iff found]
  cases value.bare <;> simp [Json.kind]

theorem reports_portText (value : Json) : Reports (portFlaws value) (portText value) := by
  cases value with
  | object fields => exact (reports_optionalText _).bind fun _ _ => (reports_optionalText _).map
  | _ => exact reports_optionalText _

theorem reports_nodeRef? (value : Json) : Reports (refFlaws value) (nodeRef? value) := by
  cases value with
  | object fields =>
    rw [refFlaws, nodeRef?]
    by_cases isRef : isNodeRef fields = true
    · rw [if_pos isRef, if_pos isRef]
      refine (reports_optionalText _).bind fun text found => ?_
      cases text with
      | none =>
        rw [if_pos ((kind_bare_eq_null_iff found).mpr rfl)]
        exact .ok none
      | some id =>
        rw [if_neg fun null => Option.some_ne_none id ((kind_bare_eq_null_iff found).mp null)]
        exact (reports_portText _).map
    · rw [if_neg isRef, if_neg isRef]
      exact .ok none
  | _ => exact .ok none

/-- What is read where a node is named. -/
theorem isSome_nodeRef? {value : Json} {ref : Option NodeRef} (read : nodeRef? value = .ok ref) :
    ref.isSome = value.namesNode := by
  cases value with
  | object fields =>
    rw [nodeRef?] at read
    by_cases isRef : isNodeRef fields = true
    · rw [if_pos isRef] at read
      obtain ⟨text, found, read⟩ := bind_eq_ok.mp read
      have null := kind_bare_eq_null_iff found
      cases text with
      | none =>
        cases read
        simp [namesNode, null]
      | some id =>
        obtain ⟨port, -, read⟩ := bind_eq_ok.mp read
        cases read
        simp [namesNode, isRef, null]
    · rw [if_neg isRef] at read
      cases read
      simp [namesNode, isRef]
  | _ =>
    cases read
    rfl

theorem all_isSome_of_mapM {values : List Json} {refs : List (Option NodeRef)}
    (read : values.mapM nodeRef? = .ok refs) : refs.all Option.isSome = values.all namesNode := by
  induction values generalizing refs with
  | nil =>
    cases read
    rfl
  | cons value values ih =>
    rw [List.mapM_cons] at read
    obtain ⟨ref, first, read⟩ := bind_eq_ok.mp read
    obtain ⟨others, later, read⟩ := bind_eq_ok.mp read
    cases read
    rw [List.all_cons, List.all_cons, isSome_nodeRef? first, ih later]

theorem isSome_allSome {α : Type} (values : List (Option α)) :
    (allSome values).isSome = values.all Option.isSome := by
  induction values with
  | nil => rfl
  | cons value values ih =>
    cases value with
    | none => rfl
    | some value => rw [allSome, Option.isSome_map, ih]; rfl

theorem reports_attrItem? (value : Json) : Reports (entryFlaws value) (attrItem? value) := by
  cases value with
  | object fields =>
    rw [entryFlaws]
    by_cases pair : isPair fields = true
    · rw [if_pos pair, attrItem?_tagged (Json.isPair_iff.mp pair)]
      refine (reports_optionalText _).bind fun text found => ?_
      cases text with
      | none =>
        rw [if_neg fun key => (hasText_iff found).mp key rfl]
        exact .ok none
      | some key =>
        by_cases empty : key = ""
        · rw [if_neg fun key => (hasText_iff found).mp key empty]
          simp only [if_pos empty]
          exact .ok none
        · rw [if_pos ((hasText_iff found).mpr empty)]
          simp only [if_neg empty]
          exact (reports_optionalText _).map
    · rw [if_neg pair, attrItem?_untagged fun tagged => pair (Json.isPair_iff.mpr tagged)]
      exact .ok none
  | _ => exact .ok none

theorem reports_elementsOrNone (value : Json) :
    Reports (listFlaws value) (elementsOrNone value) := by
  rw [elementsOrNone_eq]
  unfold listFlaws Json.isListable
  cases value.isBlank || value.elements?.isSome with
  | true => exact .ok _
  | false => exact .error _ []

theorem eq_contents_of_elementsOrNone {value : Json} {items : List Json}
    (listed : elementsOrNone value = .ok items) : items = value.contents := by
  rw [elementsOrNone_eq] at listed
  split at listed
  · exact (Except.ok.inj listed).symm
  · cases listed

theorem reports_attrsField (fields : List (String × Json)) :
    Reports (attrsFlaws fields) (attrsField fields) := by
  unfold attrsField
  refine (reports_elementsOrNone _).bind fun items listed => ?_
  obtain rfl := eq_contents_of_elementsOrNone listed
  exact (Reports.mapM fun entry _ => reports_attrItem? entry).map

theorem reports_nodeOfFields (fields : List (String × Json)) :
    Reports (fieldsFlaws fields .node) (nodeOfFields fields) := by
  unfold nodeOfFields
  refine (reports_nodeRef? _).bind fun ref read => ?_
  rw [← isSome_nodeRef? read]
  cases ref with
  | none => exact .error .missingNodeId _
  | some ref => exact (reports_attrsField fields).map

theorem reports_edgeOfFields (fields : List (String × Json)) :
    Reports (fieldsFlaws fields .edge) (edgeOfFields fields) := by
  unfold edgeOfFields
  refine (reports_elementsOrNone _).bind fun items listed => ?_
  obtain rfl := eq_contents_of_elementsOrNone listed
  refine (Reports.mapM fun endpoint _ => reports_nodeRef? endpoint).bind fun refs read => ?_
  -- an endpoint that is missing is noticed when all have been read
  rw [← all_isSome_of_mapM read, ← isSome_allSome]
  cases allSome refs with
  | none => exact .error .badEndpoint _
  | some chain => exact (reports_attrsField fields).map

theorem reports_attrOfFields (fields : List (String × Json)) :
    Reports (fieldsFlaws fields .attr) (attrOfFields fields).outcome := by
  unfold fieldsFlaws
  cases scalar : (field fields "target").isScalar with
  | false =>
    rw [attrOfFields_compound scalar]
    exact .error _ []
  | true =>
    cases aimed : targetOf? (field fields "target") with
    | some target =>
      rw [attrOfFields_known (targetOf?_eq_some_iff.mp aimed), Journal.outcome_bind]
      exact (reports_attrsField fields).map
    | none =>
      rw [attrOfFields_unknown scalar (ne_name_of_targetOf?_eq_none aimed)]
      exact .ok none

/-! ### What is visited -/

theorem reports_ofItems {items : List Json}
    (each : ∀ item ∈ items, Reports (item.visited.flatMap flaws) (ofJson item).outcome) :
    Reports ((items.flatMap visited).flatMap flaws) (ofItems items).outcome := by
  induction items with
  | nil =>
    rw [ofItems]
    exact .ok []
  | cons item items ih =>
    obtain ⟨head, tail⟩ := List.forall_mem_cons.mp each
    rw [List.flatMap_cons, List.flatMap_append, ofItems, Journal.outcome_bind]
    refine head.bind fun _ _ => ?_
    rw [Journal.outcome_bind]
    exact (ih tail).map

theorem reports_container {fields : List (String × Json)}
    (each : ∀ child ∈ Json.children (.object fields),
      Reports (child.visited.flatMap flaws) (ofJson child).outcome)
    (build : Option String → List Statement → Statement) :
    Reports (textFlaws (field fields "id") ++ listFlaws (field fields "children") ++
        ((Json.children (.object fields)).flatMap visited).flatMap flaws)
      (do
        let id ← optionalText (field fields "id")
        return some (build id (← childrenOf fields)) :
          Journal LoadError (Option Statement)).outcome := by
  rw [Journal.outcome_bind, List.append_assoc]
  refine (reports_optionalText _).bind fun id _ => ?_
  rw [Journal.outcome_bind, childrenOf_eq_ofItems, Journal.outcome_bind]
  refine Reports.map ((reports_elementsOrNone _).bind fun items listed => ?_)
  obtain rfl := eq_contents_of_elementsOrNone listed
  exact reports_ofItems each

/-- A value reports its own flaws before those of its children. -/
theorem hereditary_reports : Json.Hereditary fun value =>
    Reports (value.visited.flatMap flaws) (ofJson value).outcome := by
  intro value each
  cases value with
  | object fields =>
    by_cases tagged : ∃ tag : Tag, field fields "type" = .string tag.name
    · obtain ⟨tag, tagged⟩ := tagged
      have own := Json.flaws_tagged tagged
      cases container : tag.isContainer with
      | true =>
        rw [ofJson_container tagged container, Json.visited_container tagged container,
          List.flatMap_cons, own, Json.fieldsFlaws_container container]
        exact reports_container each _
      | false =>
        rw [Json.visited_plain tagged container, List.flatMap_singleton, own]
        cases tag with
        | graph | digraph | subgraph => cases container
        | node =>
          rw [ofJson_node tagged, Journal.outcome_bind]
          exact (reports_nodeOfFields fields).map
        | edge =>
          rw [ofJson_edge tagged, Journal.outcome_bind]
          exact (reports_edgeOfFields fields).map
        | attr =>
          rw [ofJson_attr tagged]
          exact reports_attrOfFields fields
    · have untagged := not_exists.mp tagged
      rw [ofJson_untagged untagged, Json.visited_untagged untagged, List.flatMap_singleton,
        Json.flaws_untagged untagged]
      exact .ok none
  | _ => exact .error _ []

theorem reports_ofJson (value : Json) :
    Reports (value.visited.flatMap flaws) (ofJson value).outcome :=
  hereditary_reports.holds value

/-- Values that are loaded can be resolved. -/
theorem exists_ofStatements_of_ofItems {items : List Json} {statements : List Statement}
    (loaded : (ofItems items).outcome = .ok statements) :
    ∃ graphs, (Graph.ofStatements statements).outcome = .ok graphs := by
  induction items generalizing statements with
  | nil =>
    cases loaded
    exact ⟨[], rfl⟩
  | cons item items ih =>
    obtain ⟨found, first, loaded⟩ := Journal.outcome_bind_eq_ok.mp loaded
    obtain ⟨others, later, loaded⟩ := Journal.outcome_bind_eq_ok.mp loaded
    cases loaded
    obtain ⟨graphs, resolved⟩ := ih later
    cases found with
    | none => exact ⟨graphs, resolved⟩
    | some statement =>
      obtain ⟨graph, head⟩ := Graph.exists_ofStatement?_of_ofJson first
      unfold Graph.ofStatements at resolved ⊢
      rw [Option.toList_some, List.singleton_append, List.map_cons, Graph.outcome_ofItems_cons,
        Graph.ofItem?, head, resolved]
      exact ⟨_, rfl⟩

theorem ofItems_untyped_eq_error_iff {data : List (List (String × Json))} {error : ResolveError} :
    (Graph.ofItems (data.map fun fields => .untyped (.object fields))).outcome = .error error ↔
      ∃ first, (ofItems (data.map .object)).outcome = .error first ∧ error = .load first := by
  rw [Graph.outcome_ofItems_untyped]
  cases loaded : (ofItems (data.map .object)).outcome with
  | error first =>
    constructor
    · intro failed
      cases failed
      exact ⟨first, rfl, rfl⟩
    · rintro ⟨_, same, rfl⟩
      cases same
      rfl
  | ok statements =>
    obtain ⟨graphs, resolved⟩ := exists_ofStatements_of_ofItems loaded
    constructor
    · intro failed
      cases resolved.symm.trans failed
    · rintro ⟨_, same, -⟩
      cases same

theorem ofItems_eq_error_iff {data : List Json} {error : LoadError} :
    (ofItems data).outcome = .error error ↔ Json.firstFlaw? data = some error :=
  (reports_ofItems fun item _ => reports_ofJson item).eq_error_iff

theorem ofJson_eq_error_iff {value : Json} {error : LoadError} :
    (ofJson value).outcome = .error error ↔ Json.firstFlaw? [value] = some error := by
  rw [Json.firstFlaw?, List.flatMap_singleton]
  exact (reports_ofJson value).eq_error_iff

/-- Loading a value, a list of values, or objects that are then resolved has the error of the first
flaw of what is visited, and else no error. What is out of contract is refused if no value that is
visited is a misfit; a value is one just if it has a flaw that is no refusal. -/
theorem refuses_unless_misfit (value : Json) (data : List Json)
    (objects : List (List (String × Json))) :
    ((∀ error, (ofJson value).outcome = .error error ↔ Json.firstFlaw? [value] = some error) ∧
      (Json.Fits [value] → ∀ error, (ofJson value).outcome = .error error →
        error.isRefusal = true)) ∧
    ((∀ error, (ofItems data).outcome = .error error ↔ Json.firstFlaw? data = some error) ∧
      (Json.Fits data → ∀ error, (ofItems data).outcome = .error error →
        error.isRefusal = true)) ∧
    ((∀ error, (Graph.ofItems (objects.map fun fields => .untyped (.object fields))).outcome =
          .error error ↔
        ∃ flaw, Json.firstFlaw? (objects.map .object) = some flaw ∧ error = .load flaw) ∧
      (Json.Fits (objects.map .object) → ∀ error,
        (Graph.ofItems (objects.map fun fields => .untyped (.object fields))).outcome =
          .error error → ∃ flaw, error = .load flaw ∧ flaw.isRefusal = true)) ∧
    value.flaws.all LoadError.isRefusal = !value.isMisfit := by
  have resolving (error : ResolveError) :
      (Graph.ofItems (objects.map fun fields => .untyped (.object fields))).outcome =
          .error error ↔
        ∃ flaw, Json.firstFlaw? (objects.map .object) = some flaw ∧ error = .load flaw := by
    simp only [ofItems_untyped_eq_error_iff, ofItems_eq_error_iff]
  refine ⟨⟨fun _ => ofJson_eq_error_iff, fun fits error failed => ?_⟩,
    ⟨fun _ => ofItems_eq_error_iff, fun fits error failed => ?_⟩,
    ⟨resolving, fun fits error failed => ?_⟩, Json.all_flaws value⟩
  · exact fits.isRefusal (ofJson_eq_error_iff.mp failed)
  · exact fits.isRefusal (ofItems_eq_error_iff.mp failed)
  · obtain ⟨flaw, first, rfl⟩ := (resolving error).mp failed
    exact ⟨flaw, rfl, fits.isRefusal first⟩

/-- A node without an id, after an edge whose chain is blank and defaults with a text where a list
of attributes is wanted. -/
theorem refuses_unless_misfit_node :
    let edge : Json := .object [("type", .string "edge_stmt"), ("edge_list", .int 0)]
    let defaults : Json := .object [("type", .string "attr_stmt"), ("target", .string "edge"),
      ("attr_list", .string "color")]
    let graph : List (String × Json) := [("type", .string "digraph"),
      ("children", .array [edge, defaults, .object [("type", .string "node_stmt")]])]
    Json.Fits [.object graph] ∧
      (ofJson (.object graph)).outcome = .error .missingNodeId ∧
      (ofItems [.object graph]).outcome = .error .missingNodeId ∧
      (Graph.ofItems [.untyped (.object graph)]).outcome = .error (.load .missingNodeId) ∧
      LoadError.isRefusal .missingNodeId = true := by
  intro edge defaults graph
  obtain ⟨⟨loading, refused⟩, ⟨listing, -⟩, ⟨resolving, -⟩, -⟩ :=
    refuses_unless_misfit (.object graph) [.object graph] [graph]
  have first : Json.firstFlaw? [.object graph] = some .missingNodeId := rfl
  have fitting : ∀ item ∈ [Json.object graph].flatMap visited, (!item.isMisfit) = true :=
    List.all_eq_true.mp rfl
  have fits : Json.Fits [.object graph] := fun item seen => by
    simpa using fitting item seen
  have failed := (loading _).mpr first
  exact ⟨fits, failed, (listing _).mpr first, (resolving _).mpr ⟨_, first, rfl⟩,
    refused fits _ failed⟩

/-- Not all that is out of contract is refused. A list for the target of defaults cannot be looked
up, and a number for the children of a graph cannot be listed. -/
theorem ofJson_not_refused :
    let defaults : Json :=
      .object [("type", .string "attr_stmt"), ("target", .array [.string "node"])]
    let graph : Json := .object [("type", .string "digraph"), ("children", .int 5)]
    (ofJson defaults).outcome = .error (.compoundTarget .array) ∧
      (ofJson graph).outcome = .error (.noElements .int) ∧
      ¬ ∀ value error, (ofJson value).outcome = .error error → error.isRefusal = true := by
  intro defaults graph
  have compound : (ofJson defaults).outcome = .error (.compoundTarget .array) := rfl
  refine ⟨compound, rfl, fun refused => ?_⟩
  cases refused defaults _ compound

end Statement

end DotGraph
