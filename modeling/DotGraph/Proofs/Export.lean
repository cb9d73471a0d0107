import DotGraph.Graph.Import
import DotGraph.Proofs.Json.Writing

/-!
# Exports lose nothing

Every element is told from its export, in which ids, strictness and types are kept apart. The text
of an export stands for the exported values and for nothing else, whatever the indent, and is read
back as these (`Element.render_lossless`).
-/

namespace DotGraph

open Json (field Plain)

/-! ### Elements from their exports -/

theorem Attrs.ofJson?_toJson (attrs : Attrs) : ofJson? attrs.toJson = some attrs := by
  have read : (attrs.entries.map fun entry => (entry.1, Json.string entry.2)).mapM
      (fun entry => (textOf? entry.2).map (entry.1, ·)) = some (attrs.entries.map id) := by
    apply Json.mapM_map_of_reads
    intro entry
    rfl
  rw [List.map_id] at read
  exact (congrArg (Option.map OrderedMap.ofPairs) read).trans
    (congrArg some (OrderedMap.ofPairs_entries attrs))

theorem Edge.ofJson?_toJson (edge : Edge) : ofJson? edge.toJson = some edge := by
  simp [ofJson?, toJson, ofFields?, field, lookup_pair_cons, textOf?, Attrs.ofJson?_toJson]

theorem Node.ofFields?_toJson (node : Node) :
    ofFields? [("type", .string "node"), ("id", .string node.id), ("attr", node.attrs.toJson)] =
      some node := by
  simp [ofFields?, field, lookup_pair_cons, textOf?, Attrs.ofJson?_toJson]

section
variable (type : String) (strict : Bool) (id : Option String) (entries : List Json)
  (edges : List Edge) (attrs : Attrs)

theorem field_type_containerFields :
    field (containerFields type strict id entries edges attrs) "type" = .string type := rfl

theorem strictOf?_containerFields :
    strictOf? (containerFields type strict id entries edges attrs) = some strict := by
  cases strict <;> cases id <;> rfl

theorem idOf?_containerFields :
    idOf? (containerFields type strict id entries edges attrs) = some id := by
  cases strict <;> cases id <;> rfl

theorem ofFields?_containerFields :
    Entry.ofFields? (containerFields type strict id entries edges attrs) =
      Entry.ofItems? entries := by
  cases strict <;> cases id <;> rfl

theorem edgesOf?_containerFields :
    edgesOf? (containerFields type strict id entries edges attrs) = some edges := by
  have read := Json.mapM_map_of_reads Edge.ofJson?_toJson edges
  rw [List.map_id'] at read
  cases strict <;> cases id <;> exact read

theorem attrs_containerFields :
    Attrs.ofJson? (field (containerFields type strict id entries edges attrs) "attr") =
      some attrs := by
  have read := attrs.ofJson?_toJson
  cases strict <;> cases id <;> exact read

end

mutual

theorem Entry.ofJson?_toJson : ∀ entry : Entry Node, Entry.ofJson? entry.toJson = some entry
  | .node value => by
    rw [toJson, Node.toJson, ofJson?, Node.ofFields?_toJson]
    rfl
  | .subgraph id entries edges attrs => by
    rw [toJson, ofJson?, field_type_containerFields, idOf?_containerFields,
      ofFields?_containerFields, edgesOf?_containerFields, attrs_containerFields,
      ofItems?_toJsonAll entries]
    rfl

theorem Entry.ofItems?_toJsonAll : ∀ entries : List (Entry Node),
    Entry.ofItems? (Entry.toJsonAll entries) = some entries
  | [] => rfl
  | entry :: entries => by
    rw [toJsonAll, ofItems?, ofJson?_toJson entry, ofItems?_toJsonAll entries]
    rfl

end

theorem Graph.ofFields?_toJson (graph : Graph) :
    ofFields? graph.kind (containerFields graph.kind.name graph.strict graph.id
      (Entry.toJsonAll graph.entries) graph.edges graph.attrs) = some graph := by
  rw [ofFields?, strictOf?_containerFields, idOf?_containerFields, ofFields?_containerFields,
    edgesOf?_containerFields, attrs_containerFields, Entry.ofItems?_toJsonAll]
  rfl

theorem Element.ofJson?_toJson (element : Element) : ofJson? element.toJson = some element := by
  cases element with
  | graph graph =>
    have read := graph.ofFields?_toJson
    obtain ⟨kind, strict, id, entries, edges, attrs⟩ := graph
    cases kind <;> exact congrArg (Option.map Element.graph) read
  | entry entry =>
    have read := entry.ofJson?_toJson
    cases entry <;> exact congrArg (Option.map Element.entry) read
  | edge edge =>
    exact congrArg (Option.map Element.edge) edge.ofJson?_toJson

/-! ### Exported values -/

theorem Attrs.plain_toJson (attrs : Attrs) : Plain attrs.toJson := by
  apply Plain.object
  · rw [List.map_map]
    exact attrs.nodup_keys
  · intro field inside
    obtain ⟨entry, -, rfl⟩ := List.mem_map.mp inside
    exact .string entry.2

theorem Edge.plain_toJson (edge : Edge) : Plain edge.toJson := by
  apply Plain.object (by simp)
  simp only [List.forall_mem_cons]
  exact ⟨.string _, .string _, .string _, edge.attrs.plain_toJson, List.forall_mem_nil _⟩

theorem Node.plain_toJson (node : Node) : Plain node.toJson := by
  apply Plain.object (by simp)
  simp only [List.forall_mem_cons]
  exact ⟨.string _, .string _, node.attrs.plain_toJson, List.forall_mem_nil _⟩

theorem plain_containerFields (type : String) (strict : Bool) (id : Option String)
    {entries : List Json} (edges : List Edge) (attrs : Attrs)
    (plain : ∀ entry ∈ entries, Plain entry) :
    Plain (.object (containerFields type strict id entries edges attrs)) := by
  have edges' : Plain (.array (edges.map Edge.toJson)) := by
    apply Plain.array
    intro edge inside
    obtain ⟨edge, -, rfl⟩ := List.mem_map.mp inside
    exact edge.plain_toJson
  have attrs' := attrs.plain_toJson
  apply Plain.object
  · cases strict <;> cases id <;> simp [containerFields]
  · cases strict <;> cases id <;>
      simp [containerFields, Plain.bool, Plain.string, Plain.array plain, edges', attrs']

mutual

theorem Entry.plain_toJson : ∀ entry : Entry Node, Plain entry.toJson
  | .node value => value.plain_toJson
  | .subgraph id entries edges attrs =>
    plain_containerFields _ _ id edges attrs (Entry.plain_toJsonAll entries)

theorem Entry.plain_toJsonAll : ∀ entries : List (Entry Node),
    ∀ value ∈ Entry.toJsonAll entries, Plain value
  | [] => List.forall_mem_nil _
  | entry :: entries =>
    List.forall_mem_cons.mpr ⟨Entry.plain_toJson entry, Entry.plain_toJsonAll entries⟩

end

namespace Element

theorem plain_toJson (element : Element) : Plain element.toJson := by
  cases element with
  | graph graph =>
    exact plain_containerFields _ _ _ _ _ (Entry.plain_toJsonAll graph.entries)
  | entry entry => exact entry.plain_toJson
  | edge edge => exact edge.plain_toJson

theorem document_render (elements : List Element) (indent : Option Int) :
    Json.Document (.array (elements.map toJson)) (render elements indent) := by
  apply Plain.document_render
  apply Plain.array
  intro value inside
  obtain ⟨element, -, rfl⟩ := List.mem_map.mp inside
  exact element.plain_toJson

theorem toJson_injective {element other : Element} (same : element.toJson = other.toJson) :
    element = other := by
  have read := congrArg ofJson? same
  rw [ofJson?_toJson, ofJson?_toJson] at read
  exact Option.some.inj read

/-- Every element is read back from its export. The text of an export stands for the exported
values and for nothing else, whatever the indent, so that other elements have another text. -/
theorem render_lossless :
    (∀ element : Element, ofJson? element.toJson = some element) ∧
      (∀ (elements : List Element) (indent : Option Int),
        (∀ value, Json.Document value (render elements indent) ↔
          value = .array (elements.map toJson)) ∧
        Json.ofText? (render elements indent) = some (.array (elements.map toJson))) ∧
      ∀ (elements others : List Element) (indent indent' : Option Int), elements ≠ others →
        render elements indent ≠ render others indent' := by
  have read (elements : List Element) (indent : Option Int) :=
    (document_render elements indent).ofText?_eq
  refine ⟨ofJson?_toJson, fun elements indent => ⟨fun value => ⟨fun document => ?_, ?_⟩,
    read elements indent⟩, fun elements others indent indent' different same => different ?_⟩
  · exact Option.some.inj (document.ofText?_eq.symm.trans (read elements indent))
  · rintro rfl
    exact document_render elements indent
  · have found := (read elements indent).symm
    rw [same, read others indent'] at found
    injection found with found
    injection found with found
    exact (List.map_inj_right fun _ _ => toJson_injective).mp found

/-- An id that is absent and one that is empty. -/
theorem render_lossless_empty_id :
    let absent : List Element := [.graph ⟨.graph, true, none, [.node ⟨"\\", ∅⟩], [], ∅⟩]
    let empty : List Element := [.graph ⟨.graph, true, some "", [.node ⟨"\\", ∅⟩], [], ∅⟩]
    absent ≠ empty ∧ render absent (some (-1)) ≠ render empty none ∧
      render empty none = "[\x7b\"type\": \"graph\", \"strict\": true, \"id\": \"\", " ++
        "\"nodes\": [\x7b\"type\": \"node\", \"id\": \"\\\\\", \"attr\": \x7b\x7d\x7d], " ++
        "\"edges\": [], \"attr\": \x7b\x7d\x7d]" ∧
      Json.ofText? (render empty none) = some (.array (empty.map toJson)) := by
  intro absent empty
  have different : absent ≠ empty := by simp [absent, empty]
  refine ⟨different, render_lossless.2.2 absent empty (some (-1)) none different, ?_,
    (render_lossless.2.1 empty none).2⟩
  decide

end Element

end DotGraph
