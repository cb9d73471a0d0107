import DotGraph.Binary64.Basic

/-!
# JSON values

Whole numbers and floating point numbers are told apart, and the fields of an object keep their
order.
-/

namespace DotGraph

inductive Json
  | null
  | bool (value : Bool)
  | int (value : Int)
  | float (value : Binary64)
  | string (value : String)
  | array (items : List Json)
  | object (fields : List (String × Json))

namespace Json

instance : Inhabited Json := ⟨.null⟩

inductive Kind
  | null
  | bool
  | int
  | float
  | string
  | array
  | object
  deriving DecidableEq

/-- The name that messages give a kind. -/
def Kind.name : Kind → String
  | .null => "NoneType"
  | .bool => "bool"
  | .int => "int"
  | .float => "float"
  | .string => "str"
  | .array => "list"
  | .object => "dict"

def kind : Json → Kind
  | .null => .null
  | .bool _ => .bool
  | .int _ => .int
  | .float _ => .float
  | .string _ => .string
  | .array _ => .array
  | .object _ => .object

/-- The value of a field; a field that is absent reads as null. -/
def field (fields : List (String × Json)) (name : String) : Json :=
  (fields.lookup name).getD .null

/-- Null, false, zero and the values without content. -/
def isBlank : Json → Bool
  | .null => true
  | .bool value => !value
  | .int value => value == 0
  | .float value => value.isZero
  | .string value => value.isEmpty
  | .array items => items.isEmpty
  | .object fields => fields.isEmpty

/-- What a value holds, one by one: the items of a list, the characters of a string, the names of
the fields of an object. Other values hold nothing that could be listed. -/
def elements? : Json → Option (List Json)
  | .array items => some items
  | .string value => some (value.toList.map fun c => .string (String.singleton c))
  | .object fields => some (fields.map fun entry => .string entry.1)
  | _ => none

/-- Values that are read one by one as what they stand for are so read together. -/
theorem mapM_map_of_reads {m : Type → Type} [Monad m] [LawfulMonad m] {α β γ : Type}
    {write : α → γ} {read : γ → m β} {value : α → β} (reads : ∀ a, read (write a) = pure (value a))
    (list : List α) : (list.map write).mapM read = pure (list.map value) := by
  rw [List.mapM_map]
  exact (congrArg (list.mapM ·) (funext reads)).trans List.mapM_pure

end Json

end DotGraph
