import DotGraph.Proofs.Rendering

/-!
# Well-formed tokens

Which texts a token of each kind can have, said without its lexeme. Well-formed tokens that are
written are cut into the same tokens again, and a text is cut into well-formed tokens only
(`Token.tokenize_render`).
-/

namespace DotGraph.Token

open Lexeme

/-- A text that belongs to a kind of token. An operator or a punctuation mark has its own text, and
in a string every backslash is paired. -/
inductive WellFormed : TokenKind → String → Prop
  | arrow : WellFormed .arrow "->"
  | line : WellFormed .line "--"
  | punctuation {kind : TokenKind} {c : Char} : TokenKind.ofPunctuation? c = some kind →
      WellFormed kind (String.ofList [c])
  | identifier {c : Char} {rest : List Char} : isIdentifierStart c = true →
      (∀ d ∈ rest, isIdentifierPart d = true) → WellFormed .identifier (String.ofList (c :: rest))
  | numeral {text : String} : Numeral text.toList → WellFormed .numeral text
  | html {text : String} : Bracketed text.toList → WellFormed .html text
  | string {text : String} : isPaired text.toList = true → WellFormed .string text

theorem wellFormed_of_spelled {kind : TokenKind} {text : String} {written : List Char}
    (spelled : Spelled kind text written) : WellFormed kind text := by
  cases spelled with
  | arrow => exact .arrow
  | line => exact .line
  | punctuation found => exact .punctuation found
  | identifier start word => exact .identifier start word
  | numeral isNumeral =>
    apply WellFormed.numeral
    rwa [String.toList_ofList]
  | html bracketed =>
    apply WellFormed.html
    rwa [String.toList_ofList]
  | string literal =>
    apply WellFormed.string
    rw [String.toList_ofList]
    exact isPaired_of_literal literal

theorem spelled_of_wellFormed {kind : TokenKind} {text : String}
    (wellFormed : WellFormed kind text) : ∃ written, Spelled kind text written := by
  cases wellFormed with
  | arrow => exact ⟨_, .arrow⟩
  | line => exact ⟨_, .line⟩
  | punctuation found => exact ⟨_, .punctuation found⟩
  | identifier start word => exact ⟨_, .identifier start word⟩
  | numeral isNumeral =>
    have spelled := Spelled.numeral isNumeral
    rw [String.ofList_toList] at spelled
    exact ⟨_, spelled⟩
  | html bracketed =>
    have spelled := Spelled.html bracketed
    rw [String.ofList_toList] at spelled
    exact ⟨_, spelled⟩
  | string paired => exact ⟨_, writable_string paired⟩

/-- The tokens that can be written are those that are well formed. -/
theorem writable_iff_wellFormed {token : TokenKind × String} :
    Writable token ↔ WellFormed token.1 token.2 := by
  constructor
  · exact wellFormed_of_spelled
  · intro wellFormed
    obtain ⟨written, spelled⟩ := spelled_of_wellFormed wellFormed
    exact writable_of_spelled spelled

theorem tokenize_render_of_writable {tokens : List (TokenKind × String)}
    (writable : ∀ token ∈ tokens, Writable token) :
    ∃ front, tokenize (String.ofList (render tokens)) =
        .ok (front ++ [endOfInput (render tokens).length]) ∧ front.map spelling = tokens := by
  obtain ⟨whole, spelled⟩ := frontTokens_render writable
  refine ⟨frontTokens (String.ofList (render tokens)), ?_, spelled⟩
  rw [tokenize_of_none whole, String.length_ofList]

/-- Writing tokens and cutting what is written leads back to them if they are well formed. What is
cut from a text is well formed, so that writing and cutting it again makes no difference. -/
theorem tokenize_render :
    (∀ tokens : List (TokenKind × String), (∀ token ∈ tokens, WellFormed token.1 token.2) →
      ∃ front, tokenize (String.ofList (render tokens)) =
        .ok (front ++ [endOfInput (render tokens).length]) ∧ front.map spelling = tokens) ∧
    ∀ source tokens, tokenize source = .ok tokens →
      ∃ front, tokens = front ++ [endOfInput source.length] ∧
        (∀ token ∈ front, WellFormed token.kind token.text) ∧
        ∃ again, tokenize (String.ofList (render (front.map spelling))) =
            .ok (again ++ [endOfInput (render (front.map spelling)).length]) ∧
          again.map spelling = front.map spelling := by
  constructor
  · intro tokens wellFormed
    apply tokenize_render_of_writable
    intro token inside
    exact writable_iff_wellFormed.mpr (wellFormed token inside)
  · intro source tokens cut
    obtain ⟨whole, split⟩ := tokenize_eq_ok_iff.mp cut
    have writable (token : Token) (inside : token ∈ frontTokens source) :
        Writable token.spelling :=
      writable_of_mem_frontTokens whole inside
    refine ⟨frontTokens source, split, fun token inside => ?_, ?_⟩
    · exact writable_iff_wellFormed.mp (writable token inside)
    · exact tokenize_render_of_writable (List.forall_mem_map.mpr writable)

/-- A string that ends in a pair of backslashes, a minus sign after a line, and brackets around
comment openers and a quote; and a text whose string holds an escaped quote and a joined line. -/
theorem tokenize_render_mixed :
    let tokens : List (TokenKind × String) := [(.string, "\"\\\\"), (.line, "--"),
      (.numeral, "-.5"), (.html, "<\"</*>//>"), (.identifier, "_a"), (.plus, "+")]
    let source := "a--\"\\\"\\\nb\""
    let found : List Token :=
      [⟨.identifier, "a", 0⟩, ⟨.line, "--", 1⟩, ⟨.string, "\"b", 3⟩, endOfInput 10]
    ((∀ token ∈ tokens, WellFormed token.1 token.2) ∧
      ∃ front, tokenize (String.ofList (render tokens)) =
        .ok (front ++ [endOfInput (render tokens).length]) ∧ front.map spelling = tokens) ∧
    tokenize source = .ok found ∧
      ∃ front, found = front ++ [endOfInput source.length] ∧
        ∃ again, tokenize (String.ofList (render (front.map spelling))) =
            .ok (again ++ [endOfInput (render (front.map spelling)).length]) ∧
          again.map spelling = front.map spelling := by
  intro tokens source found
  have closed : htmlTail? 0 ['"', '<', '/', '*', '>', '/', '/', '>'] =
      some ['"', '<', '/', '*', '>', '/', '/', '>'] := by
    decide
  have bracketed : Bracketed "<\"</*>//>".toList :=
    bracketed_cons_iff.mpr (htmlTail?_eq_some_iff.mp closed).2
  have digits : ∀ d ∈ ['5'], d.isDigit = true := List.all_eq_true.mp rfl
  have isNumeral : Numeral "-.5".toList := .negative (.fraction (List.cons_ne_nil _ _) digits)
  have wellFormed : ∀ token ∈ tokens, WellFormed token.1 token.2 := by
    simp only [tokens, List.forall_mem_cons]
    exact ⟨.string rfl, .line, .numeral isNumeral, .html bracketed,
      @WellFormed.identifier '_' ['a'] rfl (List.all_eq_true.mp rfl),
      @WellFormed.punctuation .plus '+' rfl, List.forall_mem_nil _⟩
  have cut : tokenize "a--\"\\\"\\\nb\"" =
      .ok [⟨.identifier, "a", 0⟩, ⟨.line, "--", 1⟩, ⟨.string, "\"b", 3⟩, endOfInput 10] := by
    cbv
  obtain ⟨front, split, -, again⟩ := tokenize_render.2 source found cut
  exact ⟨⟨wellFormed, tokenize_render.1 tokens wellFormed⟩, cut, front, split, again⟩

end DotGraph.Token
