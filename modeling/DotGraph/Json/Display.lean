import DotGraph.Binary64.Text
import DotGraph.Json.Basic
import DotGraph.Text.Quoted

/-!
# Display of JSON values

The form in which a value appears in a record: texts are quoted, and lists and objects show what
they hold.
-/

namespace DotGraph.Json

mutual

def display : Json → String
  | .null => "None"
  | .bool true => "True"
  | .bool false => "False"
  | .int value => toString value
  | .float value => value.text
  | .string value => Text.quoted value
  | .array [] => "[]"
  | .array (item :: items) => "[" ++ display item ++ displayItems items ++ "]"
  | .object [] => "\x7b\x7d"
  | .object ((name, value) :: fields) =>
    "\x7b" ++ Text.quoted name ++ ": " ++ display value ++ displayFields fields ++ "\x7d"

/-- The items after the first one. -/
def displayItems : List Json → String
  | [] => ""
  | item :: items => ", " ++ display item ++ displayItems items

/-- The fields after the first one. -/
def displayFields : List (String × Json) → String
  | [] => ""
  | (name, value) :: fields =>
    ", " ++ Text.quoted name ++ ": " ++ display value ++ displayFields fields

end

end DotGraph.Json
