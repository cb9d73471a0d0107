import DotGraph.Json.Basic

/-!
# Untyped values that are no statements
-/

namespace DotGraph

inductive LoadError
  | notStatement (kind : Json.Kind)
  | notText (kind : Json.Kind)
  | missingNodeId
  | badEndpoint
  /-- A value that holds no others stands where a list is wanted. -/
  | noElements (kind : Json.Kind)
  /-- A list or an object stands where the name of a target is wanted. -/
  | compoundTarget (kind : Json.Kind)
  deriving DecidableEq

def LoadError.message : LoadError → String
  | .notStatement kind => "Expected a statement mapping, got " ++ kind.name
  | .notText kind => "Expected a text value, got " ++ kind.name
  | .missingNodeId => "node_stmt is missing node_id.id"
  | .badEndpoint => "edge_stmt endpoints must be node_id references with an id"
  | .noElements kind => "'" ++ kind.name ++ "' object is not iterable"
  | .compoundTarget kind => "unhashable type: '" ++ kind.name ++ "'"

end DotGraph
