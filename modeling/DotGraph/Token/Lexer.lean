import DotGraph.Token.Segment

/-!
# Cutting a source text into tokens

`scan` cuts a text into segments as far as that is possible; offsets are the widths of what stands
before. The tokens of a text end with the end of input, at its length.
-/

namespace DotGraph

/-- The segments of a text before the first place where none begins, and what is wrong there. -/
structure Scan where
  segments : List Segment
  failure? : Option Reason
  deriving DecidableEq

namespace Scan

def cons (segment : Segment) (scan : Scan) : Scan :=
  ⟨segment :: scan.segments, scan.failure?⟩

end Scan

def scan (blankLine : Bool) : List Char → Scan
  | [] => ⟨[], none⟩
  | c :: rest =>
    match _cut : nextSegment blankLine c rest with
    | .error reason => ⟨[], some reason⟩
    | .ok segment =>
      (scan (blankLineAfter blankLine segment.text)
        ((c :: rest).drop segment.text.length)).cons segment
termination_by text => text.length
decreasing_by
  have := List.length_pos_iff.mpr (nextSegment_ne_nil _cut)
  simp only [List.length_drop, List.length_cons]
  omega

namespace Segment

def width : List Segment → Nat
  | [] => 0
  | segment :: segments => segment.text.length + width segments

/-- The tokens of segments that start at an offset. -/
def tokens (offset : Nat) : List Segment → List Token
  | [] => []
  | .trivia text :: rest => tokens (offset + text.length) rest
  | .lexeme kind value text :: rest => ⟨kind, value, offset⟩ :: tokens (offset + text.length) rest

end Segment

namespace Token

def endOfInput (offset : Nat) : Token := ⟨.endOfInput, "", offset⟩

def tokenize (source : String) : Except SyntaxError (List Token) :=
  let result := scan true source.toList
  match result.failure? with
  | some reason => .error (.ofOffset source (Segment.width result.segments) reason)
  | none => .ok (Segment.tokens 0 result.segments ++ [endOfInput source.length])

end Token

end DotGraph
