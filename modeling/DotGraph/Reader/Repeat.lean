import DotGraph.Reader.Basic

/-!
# Repetition

A reader that takes at least one token is repeated as long as the kind of the next token says so.
That it takes a token is why the repetition ends.
-/

namespace DotGraph.Reader

variable {α : Type}

def runWhile (goOn : TokenKind → Bool) (reader : Reader α) (takes : reader.Takes 1)
    (tokens : List Token) : Except Rejection (List α × List Token) :=
  if goOn (nextKind tokens) then
    match _found : reader.run tokens with
    | .error rejection => .error rejection
    | .ok (value, rest) =>
      match runWhile goOn reader takes rest with
      | .error rejection => .error rejection
      | .ok (values, rest) => .ok (value :: values, rest)
  else .ok ([], tokens)
termination_by tokens.length
decreasing_by
  have := takes.length_le _found
  omega

def repeatWhile (goOn : TokenKind → Bool) (reader : Reader α) (takes : reader.Takes 1) :
    Reader (List α) :=
  ⟨runWhile goOn reader takes⟩

theorem repeatWhile_eq (goOn : TokenKind → Bool) (reader : Reader α) (takes : reader.Takes 1) :
    repeatWhile goOn reader takes = do
      if goOn (← inspect nextKind) then
        let value ← reader
        let values ← repeatWhile goOn reader takes
        return value :: values
      else return [] := by
  ext tokens : 2
  change runWhile goOn reader takes tokens = _
  rw [runWhile, run_bind_of_ok rfl]
  split
  · cases found : reader.run tokens with
    | error rejection => rw [run_bind_of_error found]
    | ok result =>
      obtain ⟨value, rest⟩ := result
      rw [run_bind_of_ok found, run_bind]
      dsimp only [repeatWhile]
      cases runWhile goOn reader takes rest <;> rfl
  · rfl

theorem takes_repeatWhile (goOn : TokenKind → Bool) (reader : Reader α) (takes : reader.Takes 1) :
    Takes 0 (repeatWhile goOn reader takes) := by
  intro tokens values rest h
  simp only [repeatWhile] at h
  fun_induction runWhile goOn reader takes tokens generalizing values rest with
  | case1 => cases h
  | case2 => cases h
  | case3 tokens _ value middle found values' last more ih =>
    cases h
    obtain ⟨first, rfl, _⟩ := takes found
    obtain ⟨second, rfl, _⟩ := ih more
    exact ⟨first ++ second, (List.append_assoc ..).symm, Nat.zero_le _⟩
  | case4 => cases h; exact ⟨[], rfl, Nat.le_refl 0⟩

end DotGraph.Reader
