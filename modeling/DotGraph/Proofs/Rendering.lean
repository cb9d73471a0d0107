import DotGraph.Proofs.Tiling
import DotGraph.Token.Printer

/-!
# Cutting what was written

Tokens that are written as lexemes of their kinds, with a space between two, are cut into the same
tokens again (`scan_render`). A string can be written if a backslash in it takes along none of the
characters that have a meaning after one (`Token.isPaired`).
-/

namespace DotGraph

open Text Lexeme

namespace Token

/-- Every backslash is paired with the character after it, which is no quote and no newline. -/
def isPaired : List Char → Bool
  | '\\' :: c :: rest => c != '"' && c != '\n' && isPaired rest
  | c :: rest => c != '\\' && isPaired rest
  | [] => true

theorem escapeQuote_of_ne {c : Char} (other : c ≠ '"') : escapeQuote c = [c] := if_neg other

theorem literal_of_isPaired {text : List Char} (paired : isPaired text = true) :
    Literal (text.flatMap escapeQuote) text := by
  fun_induction isPaired text with
  | case1 c rest ih =>
    rw [Bool.and_eq_true, Bool.and_eq_true, bne_iff_ne, bne_iff_ne] at paired
    obtain ⟨⟨noQuote, noNewline⟩, later⟩ := paired
    rw [List.flatMap_cons, List.flatMap_cons, escapeQuote_of_ne noQuote]
    exact .escape noQuote noNewline (ih later)
  | case2 c rest _ ih =>
    rw [Bool.and_eq_true, bne_iff_ne] at paired
    obtain ⟨noBackslash, later⟩ := paired
    rw [List.flatMap_cons]
    by_cases quote : c = '"'
    · subst quote
      exact .quote (ih later)
    · rw [escapeQuote_of_ne quote]
      exact .plain noBackslash quote (ih later)
  | case3 => exact .nil

/-- Decoding leaves no other backslashes. -/
theorem isPaired_of_literal {body text : List Char} (literal : Literal body text) :
    isPaired text = true := by
  induction literal with
  | nil => rfl
  | quote _ ih => simpa [isPaired] using ih
  | continuation _ ih => exact ih
  | escape noQuote noNewline _ ih => simp [isPaired, noQuote, noNewline, ih]
  | plain noBackslash _ _ ih => simp [isPaired, noBackslash, ih]

/-- A token without its place that is written as a lexeme of its kind. -/
def Writable (token : TokenKind × String) : Prop :=
  Spelled token.1 token.2 (lexeme token.1 token.2)

theorem writable_string {text : String} (paired : isPaired text.toList = true) :
    Writable (.string, text) := by
  have spelled := Spelled.string (literal_of_isPaired paired)
  rwa [String.ofList_toList] at spelled

theorem lexeme_of_ne {kind : TokenKind} (other : kind ≠ .string) (text : String) :
    lexeme kind text = text.toList := by
  unfold lexeme
  split
  · exact absurd rfl other
  · rfl

theorem writable_punctuation {kind : TokenKind} {text : String} {c : Char} (one : text.toList = [c])
    (found : TokenKind.ofPunctuation? c = some kind) : Writable (kind, text) := by
  have other : kind ≠ .string := by
    rintro rfl
    cases TokenKind.isId_of_ofPunctuation? found
  have spelled := Spelled.punctuation found
  rw [← one, String.ofList_toList] at spelled
  unfold Writable
  rwa [lexeme_of_ne other]

/-- What has been cut from a text can be written. -/
theorem writable_of_spelled {kind : TokenKind} {text : String} {written : List Char}
    (spelled : Spelled kind text written) : Writable (kind, text) := by
  have same (other : kind ≠ .string) (whole : text.toList = written) : Writable (kind, text) := by
    unfold Writable
    rw [lexeme_of_ne other, whole]
    exact spelled
  cases spelled with
  | string literal =>
    apply writable_string
    rw [String.toList_ofList]
    exact isPaired_of_literal literal
  | punctuation found => exact writable_punctuation String.toList_ofList found
  | arrow | line => exact same nofun rfl
  | html | numeral | identifier => exact same nofun String.toList_ofList

theorem writable_arrow : Writable (.arrow, "->") := .arrow

theorem writable_keyword (keyword : Keyword) : Writable (.identifier, keyword.name) := by
  cases keyword <;> exact .identifier rfl (List.all_eq_true.mp rfl)

end Token

/-- A space ends every lexeme. -/
theorem Lexeme.unextended_space (kind : TokenKind) (text later : List Char) :
    Unextended kind text (' ' :: later) :=
  (unextended_nil kind text).append_cons (separates_of_isBlank rfl) later

theorem scan_space (blankLine : Bool) (text : List Char) :
    scan blankLine (' ' :: text) =
      (scan (blankLineAfter blankLine [' ']) text).cons (.trivia [' ']) := by
  have cut : nextSegment blankLine ' ' text = .ok (.trivia [' ']) := rfl
  rw [scan_of_ok cut]
  rfl

/-- What was written is cut into the tokens that were written, and nothing is left. -/
theorem scan_render {tokens : List (TokenKind × String)}
    (writable : ∀ token ∈ tokens, Token.Writable token) (blankLine : Bool) (offset : Nat) :
    (scan blankLine (Token.render tokens)).failure? = none ∧
      (Segment.tokens offset (scan blankLine (Token.render tokens)).segments).map
        (fun token => (token.kind, token.text)) = tokens := by
  fun_induction Token.render tokens generalizing blankLine offset with
  | case1 =>
    rw [scan]
    exact ⟨rfl, rfl⟩
  | case2 kind text =>
    have spelled := writable _ List.mem_cons_self
    have cut := scan_append_of_spelled spelled (unextended_nil ..) blankLine
    rw [List.append_nil, scan] at cut
    dsimp only at cut
    rw [cut]
    exact ⟨rfl, rfl⟩
  | case3 kind text rest _ ih =>
    have spelled := writable _ List.mem_cons_self
    rw [scan_append_of_spelled spelled (unextended_space ..), scan_space]
    have later := ih (fun token inside => writable token (List.mem_cons_of_mem _ inside))
      (blankLineAfter (blankLineAfter blankLine (Token.lexeme kind text)) [' '])
      (offset + (Token.lexeme kind text).length + 1)
    exact ⟨later.1, congrArg ((kind, text) :: ·) later.2⟩

/-- A token without its place. -/
def Token.spelling (token : Token) : TokenKind × String := (token.kind, token.text)

/-- What has been cut from a text can be written. -/
theorem writable_of_mem_frontTokens {source : String}
    (whole : (scan true source.toList).failure? = none) {token : Token}
    (inside : token ∈ frontTokens source) : Token.Writable token.spelling := by
  obtain ⟨lexeme, found⟩ := Segment.kind_of_mem_tokens inside
  exact Token.writable_of_spelled ((tiles_scan whole).spelled found)

/-- The tokens of a text that was written. -/
theorem frontTokens_render {tokens : List (TokenKind × String)}
    (writable : ∀ token ∈ tokens, Token.Writable token) :
    (scan true (String.ofList (Token.render tokens)).toList).failure? = none ∧
      (frontTokens (String.ofList (Token.render tokens))).map Token.spelling = tokens := by
  rw [frontTokens, String.toList_ofList]
  exact scan_render writable true 0

end DotGraph
