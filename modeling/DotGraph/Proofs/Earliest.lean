import DotGraph.Proofs.Grammar.PromptReaders
import DotGraph.Proofs.Newline

/-!
# Where syntax errors are reported

A text that can be cut into tokens but not read is rejected at the earliest token at which it is
hopeless: the tokens before begin some text that is read, and no tokens that begin with these and
the offending one are read (`GraphDecl.earliest_of_parse_error`).
-/

namespace DotGraph

open Spelling (AllWritable allWritable_append place)

theorem Token.keeps_place : Token.Keeps fun token => place token.spelling := fun _ => ⟨rfl, rfl⟩

/-- What stands before an end of input that is the first. -/
theorem takeWhile_of_split {front later : List Token} {token : Token}
    (inside : ∀ token ∈ front, token.kind ≠ .endOfInput) (ends : token.kind = .endOfInput) :
    (front ++ token :: later).takeWhile (·.kind != .endOfInput) = front := by
  rw [List.takeWhile_append_of_pos fun token here => bne_iff_ne.mpr (inside token here),
    List.takeWhile_cons_of_neg (by simp [ends]), List.append_nil]

theorem eq_frontTokens_of_split {source : String} {used later : List Token} {token : Token}
    (cut : Token.tokenize source = .ok (used ++ token :: later))
    (inside : ∀ token ∈ used, token.kind ≠ .endOfInput) (ends : token.kind = .endOfInput) :
    used = frontTokens source := by
  obtain ⟨-, split⟩ := Token.tokenize_eq_ok_iff.mp cut
  have before := congrArg (List.takeWhile (·.kind != .endOfInput)) split
  rwa [takeWhile_of_split inside ends,
    takeWhile_of_split (fun _ => kind_ne_endOfInput_of_mem) rfl] at before

namespace GraphDecl

/-- Declarations are read from the tokens, up to an end of input. -/
def Accepts (tokens : List Token) : Prop :=
  ∃ decls rest, Reader.declarations.run tokens = .ok (decls, rest)

/-- The places of tokens that are read do not matter. -/
theorem derives_of_run {tokens : List Token} {decls : List GraphDecl}
    (read : Reader.declarations.run tokens = .ok (decls, [])) :
    Derives ((tokens.map Token.spelling).map place) decls := by
  have blind := Reader.blind_declarations Token.keeps_place tokens
  unfold Reader.BlindOn at blind
  rw [read] at blind
  obtain ⟨trees, split, means⟩ := Reader.reads_declarations.sound blind
  rw [List.map_nil, List.append_nil] at split
  refine ⟨trees, ?_, means⟩
  rw [← split, List.map_map]
  rfl

theorem spelling_append_place (tokens : List Token) (more : Spelling) :
    (tokens ++ more.map place).map Token.spelling = tokens.map Token.spelling ++ more := by
  rw [List.map_append, List.map_map]
  exact congrArg (tokens.map Token.spelling ++ ·) (List.map_id more)

/-- What is rejected: a token that is no help, whatever comes after it, where the tokens before it
can be completed. -/
theorem earliest_of_run {tokens : List Token} {rejection : Rejection}
    (fails : Reader.declarations.run tokens = .error rejection)
    (ended : ∃ token ∈ tokens, token.kind = .endOfInput) :
    ∃ used token later, tokens = used ++ token :: later ∧ rejection.rest = token :: later ∧
      (∀ token ∈ used, token.kind ≠ .endOfInput) ∧
      (∀ others, ¬ Accepts (used ++ token :: others)) ∧
      ∃ (more : Spelling) (decls : List GraphDecl), AllWritable more ∧
        Reader.declarations.run (used ++ more.map place) = .ok (decls, []) := by
  obtain ⟨used, taken⟩ := Reader.prompt_declarations tokens
  have split := taken.split
  have ahead := taken.ahead
  rw [fails] at split ahead
  obtain ⟨reason, rest⟩ := rejection
  cases rest with
  | nil =>
    -- the end of input would have been taken
    obtain ⟨token, here, ends⟩ := ended
    rw [split] at here
    exact absurd ends (taken.inside token (by simpa [Reader.remainder] using here))
  | cons token later =>
    refine ⟨used, token, later, split, rfl, taken.inside, ?_, ?_⟩
    · rintro others ⟨decls, rest, read⟩
      rw [ahead (token :: others) rfl] at read
      cases read
    · by_cases none : used = []
      · subst none
        exact ⟨[], [], Spelling.allWritable_nil, Reader.reads_declarations.complete [] rfl⟩
      · obtain ⟨more, decls, writable, ends⟩ := taken.completable none
        refine ⟨more, decls, writable, ?_⟩
        have read := (ends [] rfl).2
        rwa [List.append_nil] at read

/-- Tokens that were cut from a text, written with those that complete them. -/
theorem exists_text_of_run {used : List Token} {more : Spelling} {decls : List GraphDecl}
    (cut : ∀ token ∈ used, Token.Writable token.spelling) (writable : AllWritable more)
    (read : Reader.declarations.run (used ++ more.map place) = .ok (decls, [])) :
    ∃ text, parse text = .ok decls ∧
      (frontTokens text).map Token.spelling = (used ++ more.map place).map Token.spelling := by
  have derived := derives_of_run read
  rw [spelling_append_place] at derived ⊢
  have whole : AllWritable (used.map Token.spelling ++ more) :=
    allWritable_append.mpr ⟨List.forall_mem_map.mpr cut, writable⟩
  obtain ⟨clean, spelled⟩ := frontTokens_render whole
  exact ⟨_, parse_of_spelling clean spelled derived, spelled⟩

/-- A text that goes on in a new line with tokens that are written there. -/
theorem parse_append_render {source : String} (whole : (scan true source.toList).failure? = none)
    {more : Spelling} (writable : AllWritable more) {decls : List GraphDecl}
    (read : Reader.declarations.run (frontTokens source ++ more.map place) = .ok (decls, [])) :
    parse (source ++ "\n" ++ String.ofList (Token.render more)) = .ok decls := by
  obtain ⟨clean, spelled⟩ := frontTokens_render writable
  have derived := derives_of_run read
  rw [spelling_append_place] at derived
  refine parse_of_spelling ?_ ?_ derived
  · rw [toList_append_newline, scan_append_newline whole]
    exact clean
  · rw [frontTokens_append_newline whole, List.map_append, List.map_map]
    exact congrArg ((frontTokens source).map Token.spelling ++ ·) spelled

theorem exists_rejection {source : String} {tokens : List Token} {error : SyntaxError}
    (cut : Token.tokenize source = .ok tokens) (fails : parse source = .error error) :
    ∃ rejection, Reader.declarations.run tokens = .error rejection ∧
      rejection.toSyntaxError source = error := by
  unfold parse at fails
  rw [cut] at fails
  dsimp only at fails
  cases found : Reader.declarations.run tokens with
  | ok result => rw [found] at fails; cases fails
  | error rejection =>
    rw [found] at fails
    exact ⟨rejection, rfl, Except.error.inj fails⟩

/-- An error is at the first token that makes a text hopeless. The tokens before it begin a text
that is read; no tokens that begin with these and the offending one are read; and at the end of
input the text itself begins one that is read. -/
theorem earliest_of_parse_error {source : String} {tokens : List Token} {error : SyntaxError}
    (cut : Token.tokenize source = .ok tokens) (fails : parse source = .error error) :
    ∃ k token, tokens[k]? = some token ∧ error = .ofOffset source token.offset error.reason ∧
      (∃ later text decls, Accepts (tokens.take k ++ later) ∧ parse text = .ok decls ∧
        (frontTokens text).map Token.spelling = (tokens.take k ++ later).map Token.spelling) ∧
      (∀ later, ¬ Accepts (tokens.take (k + 1) ++ later)) ∧
      (token.kind = .endOfInput →
        ∃ more decls, more ≠ "" ∧ parse (source ++ more) = .ok decls) := by
  obtain ⟨whole, ends⟩ := Token.tokenize_eq_ok_iff.mp cut
  obtain ⟨rejection, found, rfl⟩ := exists_rejection cut fails
  have ended : ∃ token ∈ tokens, token.kind = .endOfInput :=
    ⟨Token.endOfInput source.length, by rw [ends]; simp, rfl⟩
  obtain ⟨used, token, later, rfl, rest, inside, hopeless, more, decls, writable, read⟩ :=
    earliest_of_run found ended
  refine ⟨used.length, token, by simp, ?_, ?_, ?_, ?_⟩
  · simp [Rejection.toSyntaxError, SyntaxError.ofOffset, rest]
  · have written (taken : Token) (here : taken ∈ used) : Token.Writable taken.spelling :=
      writable_of_mem_frontTokens whole
        (mem_frontTokens_of_mem cut (List.mem_append_left _ here) (inside taken here))
    obtain ⟨text, readable, spelled⟩ := exists_text_of_run written writable read
    rw [List.take_left]
    exact ⟨more.map place, text, decls, ⟨decls, [], read⟩, readable, spelled⟩
  · intro others
    rw [List.take_length_add_append, List.append_assoc]
    exact hopeless others
  · intro last
    rw [eq_frontTokens_of_split cut inside last] at read
    refine ⟨"\n" ++ String.ofList (Token.render more), decls, ?_, ?_⟩
    · intro none
      have length := congrArg String.length none
      simp at length
    · rw [← String.append_assoc]
      exact parse_append_render whole writable read

/-- A brace where a value is wanted, and a text that ends in an open body. -/
theorem earliest_of_parse_error_value :
    let tokens : List Token := [⟨.identifier, "graph", 0⟩, ⟨.leftBrace, "\x7b", 5⟩,
      ⟨.identifier, "a", 6⟩, ⟨.equals, "=", 7⟩, ⟨.rightBrace, "\x7d", 8⟩, ⟨.endOfInput, "", 9⟩]
    (Token.tokenize "graph\x7ba=\x7d" = .ok tokens ∧
      parse "graph\x7ba=\x7d" = .error ⟨.expectedIdentifier, 8, ⟨1, 9⟩⟩ ∧
      (∃ later, Accepts (tokens.take 4 ++ later)) ∧ ∀ later, ¬ Accepts (tokens.take 5 ++ later)) ∧
    parse "graph\x7b" = .error ⟨.expected .rightBrace, 6, ⟨1, 7⟩⟩ ∧
      ∃ more decls, more ≠ "" ∧ parse ("graph\x7b" ++ more) = .ok decls := by
  intro tokens
  obtain ⟨cut, cut'⟩ : Token.tokenize "graph\x7ba=\x7d" = .ok tokens ∧
      Token.tokenize "graph\x7b" =
        .ok [⟨.identifier, "graph", 0⟩, ⟨.leftBrace, "\x7b", 5⟩, ⟨.endOfInput, "", 6⟩] := by
    constructor <;> cbv
  have inner : Reader.body.run (tokens.drop 2) = .error ⟨.expectedIdentifier, tokens.drop 4⟩ := by
    have failed : Reader.simpleStatement.run (tokens.drop 2) =
        .error ⟨.expectedIdentifier, tokens.drop 4⟩ := by
      rfl
    rw [Reader.run_body_of_simple rfl rfl, Reader.run_bind_of_error failed]
  have outer : Reader.declaration.run tokens = .error ⟨.expectedIdentifier, tokens.drop 4⟩ := by
    change (Reader.body >>= _).run (tokens.drop 2) = _
    rw [Reader.run_bind_of_error inner]
  have fails : parse "graph\x7ba=\x7d" = .error ⟨.expectedIdentifier, 8, ⟨1, 9⟩⟩ := by
    unfold parse
    rw [cut]
    dsimp only
    rw [Reader.run_declarations_of_more (by decide), Reader.run_bind_of_error outer]
    rfl
  have outer' : Reader.declaration.run
      [⟨.identifier, "graph", 0⟩, ⟨.leftBrace, "\x7b", 5⟩, ⟨.endOfInput, "", 6⟩] =
        .error ⟨.expected .rightBrace, [⟨.endOfInput, "", 6⟩]⟩ := by
    change (Reader.body >>= _).run [⟨.endOfInput, "", 6⟩] = _
    rw [Reader.run_bind_of_ok (Reader.run_body_of_end rfl)]
    rfl
  have fails' : parse "graph\x7b" = .error ⟨.expected .rightBrace, 6, ⟨1, 7⟩⟩ := by
    unfold parse
    rw [cut']
    dsimp only
    rw [Reader.run_declarations_of_more (by decide), Reader.run_bind_of_error outer']
    rfl
  refine ⟨⟨cut, fails, ?_⟩, fails', ?_⟩
  · obtain ⟨k, token, found, place, ⟨later, _, _, accepts, -⟩, hopeless, -⟩ :=
      earliest_of_parse_error cut fails
    have offset : 8 = token.offset := congrArg SyntaxError.offset place
    have index : k = 4 := by
      rcases k with _ | _ | _ | _ | _ | _ | k <;> cases found <;> first | rfl | cases offset
    subst index
    exact ⟨⟨later, accepts⟩, hopeless⟩
  · obtain ⟨k, token, found, place, -, -, ends⟩ := earliest_of_parse_error cut' fails'
    have offset : 6 = token.offset := congrArg SyntaxError.offset place
    apply ends
    rcases k with _ | _ | _ | k <;> cases found <;> first | rfl | cases offset

end GraphDecl

end DotGraph
