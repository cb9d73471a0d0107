import DotGraph.Binary64.Text
import DotGraph.Json.Basic
import DotGraph.Text.Hex

/-!
# Writing JSON

A value is written on one line, or with every item and field on a line of its own, indented by a
width for each level. Quotes, backslashes and the characters below the space are escaped; all other
characters stand for themselves.
-/

namespace DotGraph.Json

inductive Layout
  | oneLine
  | indented (width : Nat)
  deriving DecidableEq

namespace Layout

/-- No indent puts all on one line; an indent below zero counts as zero. -/
def ofIndent : Option Int → Layout
  | none => .oneLine
  | some width => .indented width.toNat

/-- What stands between brackets and their content at a level. -/
def lineBreak : Layout → Nat → List Char
  | .oneLine, _ => []
  | .indented width, level => '\n' :: List.replicate (width * level) ' '

/-- What stands between two items at a level. -/
def separator : Layout → Nat → List Char
  | .oneLine, _ => [',', ' ']
  | .indented width, level => ',' :: lineBreak (.indented width) level

end Layout

def escape (c : Char) : List Char :=
  if c = '"' ∨ c = '\\' then ['\\', c]
  else if c = '\n' then ['\\', 'n']
  else if c = '\r' then ['\\', 'r']
  else if c = '\t' then ['\\', 't']
  else if c = '\x0c' then ['\\', 'f']
  else if c = '\x08' then ['\\', 'b']
  else if c.toNat < 0x20 then '\\' :: 'u' :: Text.hexDigits 4 c.toNat
  else [c]

def writeString (value : String) : List Char :=
  '"' :: value.toList.flatMap escape ++ ['"']

def writeFloat : Binary64 → List Char
  | .nan => ['N', 'a', 'N']
  | .infinite negative =>
    Binary64.sign negative ++ ['I', 'n', 'f', 'i', 'n', 'i', 't', 'y']
  | value => value.text.toList

mutual

def write (layout : Layout) (level : Nat) : Json → List Char
  | .null => ['n', 'u', 'l', 'l']
  | .bool true => ['t', 'r', 'u', 'e']
  | .bool false => ['f', 'a', 'l', 's', 'e']
  | .int value => (toString value).toList
  | .float value => writeFloat value
  | .string value => writeString value
  | .array [] => ['[', ']']
  | .array (item :: items) =>
    '[' :: layout.lineBreak (level + 1) ++ write layout (level + 1) item ++
      writeItems layout (level + 1) items ++ layout.lineBreak level ++ [']']
  | .object [] => ['{', '}']
  | .object ((name, value) :: fields) =>
    '{' :: layout.lineBreak (level + 1) ++ writeString name ++ [':', ' '] ++
      write layout (level + 1) value ++
      writeFields layout (level + 1) fields ++ layout.lineBreak level ++ ['}']

/-- The items after the first one. -/
def writeItems (layout : Layout) (level : Nat) : List Json → List Char
  | [] => []
  | item :: items =>
    layout.separator level ++ write layout level item ++ writeItems layout level items

/-- The fields after the first one. -/
def writeFields (layout : Layout) (level : Nat) : List (String × Json) → List Char
  | [] => []
  | (name, value) :: fields =>
    layout.separator level ++ writeString name ++ [':', ' '] ++ write layout level value ++
      writeFields layout level fields

end

def render (layout : Layout) (value : Json) : String :=
  String.ofList (write layout 0 value)

end DotGraph.Json
