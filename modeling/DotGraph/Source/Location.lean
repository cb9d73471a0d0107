/-!
# Locations in a source text

A location is a line and a column, both counted from one. Only a newline ends a line, and an
offset beyond the end of the text counts as lying on its last line.
-/

namespace DotGraph

structure Location where
  line : Nat
  column : Nat
  deriving DecidableEq

namespace Location

/-- The offset just after the last newline of a text, zero if it has none. -/
def lastLineStart (text : List Char) : Nat :=
  text.length - (text.reverse.takeWhile (· != '\n')).length

def ofOffset (source : String) (offset : Nat) : Location :=
  let before := source.toList.take offset
  ⟨before.count '\n' + 1, offset - lastLineStart before + 1⟩

def describe (location : Location) (reason : String) : String :=
  s!"{reason} at line {location.line}, column {location.column}"

end Location

end DotGraph
