import DotGraph.Proofs.Grammar.Declarations
import DotGraph.Proofs.Stepping.Readers
import DotGraph.Proofs.Stepping.Stages

/-!
# Reading in range

On tokens whose last one is the end of input, and no other one is, reading stays among them: the
end of input is looked at, but not taken, and what the steps come to is what the reader of
declarations answers (`declarations_advance`).
-/

namespace DotGraph.Reader

open Relation (ReflTransGen TransGen)
open Phrase (readAll)

variable {α : Type} {tokens : List Token}

theorem readAll_append (first second : List Phrase) :
    readAll (first ++ second) = readAll first >>= fun _ => readAll second := by
  induction first with
  | nil => exact (pure_bind () fun _ => readAll second).symm
  | cons phrase phrases ih => simp only [List.cons_append, readAll, ih, bind_assoc]

section moves

variable {phrase : Phrase} {token : Token} {more : List Phrase} (phrases : List Phrase)
  (rest : List Token)

theorem run_readAll_of_reject {reason : Reason} (rejects : phrase.move token = .reject reason) :
    (readAll (phrase :: phrases)).run (token :: rest) = .error ⟨reason, token :: rest⟩ := by
  apply run_bind_of_error
  rw [Phrase.run_reader, rejects]
  rfl

theorem run_readAll_of_stay (stays : phrase.move token = .stay more) :
    (readAll (phrase :: phrases)).run (token :: rest) =
      (readAll (more ++ phrases)).run (token :: rest) := by
  rw [readAll_append, readAll, run_bind, run_bind, Phrase.run_reader, stays]
  rfl

theorem run_readAll_of_take (takes : phrase.move token = .take more) :
    (readAll (phrase :: phrases)).run (token :: rest) = (readAll (more ++ phrases)).run rest := by
  rw [readAll_append, readAll, run_bind, run_bind, Phrase.run_reader, takes]
  rfl

end moves

/-! ### Any tokens -/

/-- What the steps on tokens do not fail to do: a declaration, a statement and a round of a loop
take a token, and there is no run without end. -/
structure Advances (tokens : List Token) : Prop where
  declaration : ∀ {rest : List Phrase} {index later : Nat},
    ReflTransGen (Steps tokens) ⟨.declaration :: rest, index⟩ ⟨rest, later⟩ → index < later
  statement : ∀ {rest : List Phrase} {index later : Nat},
    ReflTransGen (Steps tokens) ⟨.statement :: rest, index⟩ ⟨rest, later⟩ → index < later
  round : ∀ {head again : Phrase} {rest : List Phrase} {index later : Nat}, SameLoop head again →
    TransGen (Steps tokens) ⟨head :: rest, index⟩ ⟨again :: rest, later⟩ → index < later
  halts : ∀ run : Nat → Stage, ∃ n, ¬ Steps tokens (run n) (run (n + 1))

theorem advances (tokens : List Token) : Advances tokens where
  declaration run := index_lt_of_not_mayBeEmpty rfl run
  statement run := index_lt_of_not_mayBeEmpty rfl run
  round loop run := index_lt_of_sameLoop loop run
  halts run := by
    have := IsWellFounded.mk (wellFounded_steps tokens)
    exact WellFounded.not_rel_apply_succ (r := fun next stage => Steps tokens stage next) run

/-! ### Tokens with the end of input last -/

/-- What is read from a stage on. -/
def Stage.result (tokens : List Token) (stage : Stage) : Except Rejection (Unit × List Token) :=
  (readAll stage.phrases).run (tokens.drop stage.index)

/-- What holds of a stage that is reached: steps from it stay among the tokens, what comes next is
read to its end or rejected, and the tokens from its index on are read as the whole is. -/
structure Stage.InRange (front : List Token) (last : Token) (stage : Stage) : Prop where
  index_le : stage.index ≤ front.length
  step_ne : stage.step (front ++ [last]) ≠ .outOfRange
  taken : ∀ {token : Token} {next : Stage},
    stage.step (front ++ [last]) = .moves (some token) next →
      front[stage.index]? = some token ∧ next.index = stage.index + 1
  ended : stage.step (front ++ [last]) = .ends → stage.index = front.length
  completes : ∀ {phrase : Phrase} {rest : List Phrase}, stage.phrases = phrase :: rest →
    ∃ later, ReflTransGen (Steps (front ++ [last])) stage later ∧
      (later.phrases = rest ∨ ∃ reason, later.step (front ++ [last]) = .rejects reason)
  result_eq : stage.result (front ++ [last]) = (forget declarations).run (front ++ [last])

variable {front : List Token} {last : Token} {stage next : Stage} {index : Nat}

/-- Up to the end of input the token that is looked at is the one at the index. -/
theorem exists_ahead (last : Token) (inside : index ≤ front.length) :
    ∃ token, ahead? (front ++ [last]) index = some token ∧
      (front ++ [last])[index]? = some token ∧
      (front ++ [last]).drop index = token :: (front ++ [last]).drop (index + 1) := by
  have long : (front ++ [last]).length = front.length + 1 := List.length_append
  have there : index < (front ++ [last]).length := by omega
  have here : min index ((front ++ [last]).length - 1) = index := by omega
  refine ⟨(front ++ [last])[index], ?_, List.getElem?_eq_getElem there,
    List.drop_eq_getElem_cons there⟩
  rw [ahead?, here, List.getElem?_eq_getElem there]

theorem index_lt_of_visible (ends : last.kind = .endOfInput) {token : Token}
    (inside : index ≤ front.length) (there : (front ++ [last])[index]? = some token)
    (visible : token.kind ≠ .endOfInput) : index < front.length := by
  rcases Nat.lt_or_eq_of_le inside with before | rfl
  · exact before
  · rw [List.getElem?_concat_length] at there
    cases there
    exact absurd ends visible

/-- A token that is taken is the one at the index and not the end of input. -/
theorem taken_of_moves (ends : last.kind = .endOfInput) (inside : stage.index ≤ front.length)
    {token : Token} (moved : stage.step (front ++ [last]) = .moves (some token) next) :
    front[stage.index]? = some token ∧ next.index = stage.index + 1 := by
  obtain ⟨token, seen, there, -⟩ := exists_ahead last inside
  cases step_eq_iff.mp moved with
  | takes seen' takes there' =>
    cases seen.symm.trans seen'
    have before :=
      index_lt_of_visible ends inside there (Phrase.kind_ne_endOfInput_of_take takes)
    rw [List.getElem?_append_left before] at there'
    exact ⟨there', rfl⟩

theorem index_le_of_moves (ends : last.kind = .endOfInput) (inside : stage.index ≤ front.length)
    {taken : Option Token} (moved : stage.step (front ++ [last]) = .moves taken next) :
    next.index ≤ front.length := by
  cases taken with
  | none => exact (index_of_moves moved).trans_le inside
  | some token =>
    obtain ⟨there, grown⟩ := taken_of_moves ends inside moved
    obtain ⟨before, -⟩ := List.getElem?_eq_some_iff.mp there
    exact grown.trans_le before

theorem result_of_moves (inside : stage.index ≤ front.length) {taken : Option Token}
    (moved : stage.step (front ++ [last]) = .moves taken next) :
    next.result (front ++ [last]) = stage.result (front ++ [last]) := by
  obtain ⟨token, seen, -, split⟩ := exists_ahead last inside
  unfold Stage.result
  rw [split]
  cases step_eq_iff.mp moved with
  | stays seen' stays =>
    cases seen.symm.trans seen'
    rw [split]
    exact (run_readAll_of_stay _ _ stays).symm
  | takes seen' takes =>
    cases seen.symm.trans seen'
    exact (run_readAll_of_take _ _ takes).symm

theorem inRange_of_reaches (ends : last.kind = .endOfInput)
    (run : ReflTransGen (Steps (front ++ [last])) stage next)
    (inside : stage.index ≤ front.length) :
    next.index ≤ front.length ∧
      next.result (front ++ [last]) = stage.result (front ++ [last]) := by
  induction run with
  | refl => exact ⟨inside, rfl⟩
  | tail _ step ih =>
    obtain ⟨taken, moved⟩ := step
    obtain ⟨within, same⟩ := ih
    exact ⟨index_le_of_moves ends within moved, (result_of_moves within moved).trans same⟩

theorem step_ne_outOfRange (inside : stage.index ≤ front.length) :
    stage.step (front ++ [last]) ≠ .outOfRange := by
  intro fails
  obtain ⟨token, seen, there, -⟩ := exists_ahead last inside
  cases step_eq_iff.mp fails with
  | blind unseen => cases seen.symm.trans unseen
  | beyond _ _ absent => cases there.symm.trans absent

/-- A stage in range from which no step moves ends or rejects. -/
theorem ends_or_rejects (inside : stage.index ≤ front.length)
    (stops : ∀ next, ¬ Steps (front ++ [last]) stage next) :
    stage.step (front ++ [last]) = .ends ∨
      ∃ reason, stage.step (front ++ [last]) = .rejects reason := by
  cases stepped : stage.step (front ++ [last]) with
  | moves taken next => exact absurd ⟨taken, stepped⟩ (stops next)
  | ends => exact .inl rfl
  | rejects reason => exact .inr ⟨reason, rfl⟩
  | outOfRange => exact absurd stepped (step_ne_outOfRange inside)

/-- A phrase is read to its end or rejected: on its own it is, and what is left to be read after it
does not matter. -/
theorem exists_completion (ends : last.kind = .endOfInput) (inside : stage.index ≤ front.length)
    {phrase : Phrase} {rest : List Phrase} (left : stage.phrases = phrase :: rest) :
    ∃ later, ReflTransGen (Steps (front ++ [last])) stage later ∧
      (later.phrases = rest ∨ ∃ reason, later.step (front ++ [last]) = .rejects reason) := by
  obtain ⟨phrases, index⟩ := stage
  cases left
  obtain ⟨final, run, stops⟩ := exists_final (front ++ [last]) ⟨[phrase], index⟩
  refine ⟨final.before rest, reaches_before rest run, ?_⟩
  obtain ended | ⟨reason, rejected⟩ :=
    ends_or_rejects (inRange_of_reaches ends run inside).1 stops
  · exact .inl (congrArg (· ++ rest) (phrases_of_ends ended))
  · exact .inr ⟨reason, rejects_before rest rejected⟩

theorem result_start (tokens : List Token) :
    Stage.start.result tokens = (forget declarations).run tokens := by
  simp only [Stage.result, Stage.start, readAll, Phrase.reader, bind_pure_unit, List.drop_zero]

theorem result_of_ends (ended : stage.step tokens = .ends) :
    stage.result tokens = .ok ((), tokens.drop stage.index) := by
  rw [Stage.result, phrases_of_ends ended]
  rfl

theorem result_of_rejects (inside : stage.index ≤ front.length) {reason : Reason}
    (rejected : stage.step (front ++ [last]) = .rejects reason) :
    stage.result (front ++ [last]) = .error ⟨reason, (front ++ [last]).drop stage.index⟩ := by
  obtain ⟨token, seen, -, split⟩ := exists_ahead last inside
  unfold Stage.result
  rw [split]
  cases step_eq_iff.mp rejected with
  | rejects seen' rejects =>
    cases seen.symm.trans seen'
    exact run_readAll_of_reject _ _ rejects

/-! ### Answers -/

theorem forget_eq_ok {reader : Reader α} {rest : List Token}
    (found : (forget reader).run tokens = .ok ((), rest)) :
    ∃ value, reader.run tokens = .ok (value, rest) := by
  obtain ⟨value, middle, found, same⟩ := run_bind_eq_ok found
  cases same
  exact ⟨value, found⟩

theorem forget_eq_error {reader : Reader α} {rejection : Rejection}
    (rejected : (forget reader).run tokens = .error rejection) :
    reader.run tokens = .error rejection := by
  cases found : reader.run tokens with
  | error other =>
    rw [forget, run_bind_of_error found] at rejected
    cases rejected
    rfl
  | ok result =>
    rw [forget, run_bind_of_ok found] at rejected
    cases rejected

theorem index_of_ends (visible : ∀ token ∈ front, token.kind ≠ .endOfInput)
    (inside : stage.index ≤ front.length) (ended : stage.step (front ++ [last]) = .ends)
    (same : stage.result (front ++ [last]) = (forget declarations).run (front ++ [last])) :
    stage.index = front.length := by
  obtain ⟨decls, found⟩ := forget_eq_ok (same.symm.trans (result_of_ends ended))
  obtain ⟨token, -, there, split⟩ := exists_ahead last inside
  have ends := nextKind_of_run_declarations found
  rw [split] at ends
  refine inside.antisymm (Nat.le_of_not_lt fun before => ?_)
  rw [List.getElem?_append_left before] at there
  exact visible token (List.mem_of_getElem? there) ends

/-- Where no step moves, the reader of declarations has answered. -/
theorem Stage.InRange.final (inRange : stage.InRange front last)
    (stops : ∀ next, ¬ Steps (front ++ [last]) stage next) :
    stage.step (front ++ [last]) = .ends ∧
        (∃ decls, declarations.run (front ++ [last]) = .ok (decls, [last])) ∨
      ∃ reason, stage.step (front ++ [last]) = .rejects reason ∧
        declarations.run (front ++ [last]) =
          .error ⟨reason, (front ++ [last]).drop stage.index⟩ := by
  obtain ended | ⟨reason, rejected⟩ := ends_or_rejects inRange.index_le stops
  · have result := inRange.result_eq.symm.trans (result_of_ends ended)
    rw [inRange.ended ended, List.drop_left] at result
    exact .inl ⟨ended, forget_eq_ok result⟩
  · have result := inRange.result_eq.symm.trans (result_of_rejects inRange.index_le rejected)
    exact .inr ⟨reason, rejected, forget_eq_error result⟩

/-- Reading stays in range, a declaration, a statement and a round of a loop take a token, and every
run comes to an end. That is the end of input or a rejection, and the reader of declarations answers
the same. -/
theorem declarations_advance (ends : last.kind = .endOfInput)
    (visible : ∀ token ∈ front, token.kind ≠ .endOfInput) :
    Advances (front ++ [last]) ∧
    (∀ stage, ReflTransGen (Steps (front ++ [last])) .start stage → stage.InRange front last) ∧
    ∃ final, ReflTransGen (Steps (front ++ [last])) .start final ∧
      (final.step (front ++ [last]) = .ends ∧
          (∃ decls, declarations.run (front ++ [last]) = .ok (decls, [last])) ∨
        ∃ reason, final.step (front ++ [last]) = .rejects reason ∧
          declarations.run (front ++ [last]) =
            .error ⟨reason, (front ++ [last]).drop final.index⟩) := by
  have inRange (stage : Stage) (reached : ReflTransGen (Steps (front ++ [last])) .start stage) :
      stage.InRange front last := by
    obtain ⟨inside, same⟩ := inRange_of_reaches ends reached (Nat.zero_le _)
    rw [result_start] at same
    exact {
      index_le := inside
      step_ne := step_ne_outOfRange inside
      taken := taken_of_moves ends inside
      ended := fun ended => index_of_ends visible inside ended same
      completes := exists_completion ends inside
      result_eq := same }
  obtain ⟨final, reached, stops⟩ := exists_final (front ++ [last]) .start
  exact ⟨advances _, inRange, final, reached, (inRange final reached).final stops⟩

/-- The brace after a statement is missing. -/
theorem declarations_advance_unclosed :
    let front : List Token :=
      [⟨.identifier, "graph", 0⟩, ⟨.leftBrace, "\x7b", 6⟩, ⟨.identifier, "a", 8⟩]
    let last : Token := ⟨.endOfInput, "", 9⟩
    let rest : List Phrase := [.semicolon, .statements, .rightBrace, .declarations]
    let final : Stage := ⟨[.rightBrace, .declarations], 3⟩
    (last.kind = .endOfInput ∧ ∀ token ∈ front, token.kind ≠ .endOfInput) ∧
    (ReflTransGen (Steps (front ++ [last])) ⟨.statement :: rest, 2⟩ ⟨rest, 3⟩ ∧ 2 < 3) ∧
    ReflTransGen (Steps (front ++ [last])) .start final ∧ final.InRange front last ∧
    declarations.run (front ++ [last]) = .error ⟨.expected .rightBrace, [last]⟩ := by
  intro front last rest final
  have ends : last.kind = .endOfInput := rfl
  have visible : ∀ token ∈ front, token.kind ≠ .endOfInput := by decide
  have statement : ReflTransGen (Steps (front ++ [last])) ⟨.statement :: rest, 2⟩ ⟨rest, 3⟩ := by
    iterate 6 apply reaches_of_step rfl
    exact .refl
  have reached : ReflTransGen (Steps (front ++ [last])) .start final := by
    iterate 6 apply reaches_of_step rfl
    apply statement.trans
    iterate 2 apply reaches_of_step rfl
    exact .refl
  obtain ⟨advances, inRange, -⟩ := declarations_advance ends visible
  have there := inRange final reached
  have stepped : final.step (front ++ [last]) = .rejects (.expected .rightBrace) := rfl
  exact ⟨⟨ends, visible⟩, ⟨statement, advances.statement statement⟩, reached, there,
    forget_eq_error (there.result_eq.symm.trans (result_of_rejects there.index_le stepped))⟩

end DotGraph.Reader
