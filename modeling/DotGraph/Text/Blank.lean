import DotGraph.Text.CodeRanges

/-!
# Blank characters

The white space characters of Unicode: the separators, and the controls that separate lines,
paragraphs or segments.
-/

namespace DotGraph.Text

def blankRanges : CodeRanges where
  entries :=
    [(0x9, 0xd), (0x1c, 0x20), (0x85, 0x85), (0xa0, 0xa0), (0x1680, 0x1680), (0x2000, 0x200a),
     (0x2028, 0x2029), (0x202f, 0x202f), (0x205f, 0x205f), (0x3000, 0x3000)]
  increasing := by decide

def isBlank (c : Char) : Bool := blankRanges.contains c.toNat

end DotGraph.Text
