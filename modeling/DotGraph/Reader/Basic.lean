import DotGraph.Token.Lexer

/-!
# Readers

A reader takes what it reads from the front of a list of tokens and leaves the rest, or says what is
wrong and where. Readers are composed from one that takes a token and some that look at the next
token without taking it. Past the last token the input has ended.
-/

namespace DotGraph

/-- What is wrong, and the tokens from the offending one on. -/
structure Rejection where
  reason : Reason
  rest : List Token
  deriving DecidableEq

@[ext]
structure Reader (α : Type) where
  run : List Token → Except Rejection (α × List Token)

namespace Reader

variable {α β : Type}

def andThen (reader : Reader α) (next : α → Reader β) : Reader β where
  run tokens :=
    match reader.run tokens with
    | .error rejection => .error rejection
    | .ok (value, rest) => (next value).run rest

instance : Monad Reader where
  pure value := ⟨fun tokens => .ok (value, tokens)⟩
  bind := andThen

theorem run_bind (reader : Reader α) (next : α → Reader β) (tokens : List Token) :
    (reader >>= next).run tokens =
      match reader.run tokens with
      | .error rejection => .error rejection
      | .ok (value, rest) => (next value).run rest := rfl

theorem run_bind_of_ok {reader : Reader α} {tokens rest : List Token} {value : α}
    (h : reader.run tokens = .ok (value, rest)) (next : α → Reader β) :
    (reader >>= next).run tokens = (next value).run rest := by
  rw [run_bind, h]

theorem run_bind_of_error {reader : Reader α} {tokens : List Token} {rejection : Rejection}
    (h : reader.run tokens = .error rejection) (next : α → Reader β) :
    (reader >>= next).run tokens = .error rejection := by
  rw [run_bind, h]

instance : LawfulMonad Reader := LawfulMonad.mk' _
  (fun reader => by
    ext tokens : 2
    simp only [Functor.map, andThen]
    cases reader.run tokens <;> rfl)
  (fun _ _ => rfl)
  (fun reader next after => by
    ext tokens : 2
    simp only [run_bind]
    cases reader.run tokens <;> rfl)

def reject (reason : Reason) : Reader α := ⟨fun tokens => .error ⟨reason, tokens⟩⟩

/-- Look at the tokens that are left. -/
def inspect (view : List Token → α) : Reader α := ⟨fun tokens => .ok (view tokens, tokens)⟩

def nextKind : List Token → TokenKind
  | [] => .endOfInput
  | token :: _ => token.kind

def nextKeyword? (tokens : List Token) : Option Keyword := tokens.head?.bind Token.keyword?

/-- Take the next token if it is wanted, as what it is wanted for. -/
def accept (wanted : Token → Option α) (reason : Reason) : Reader α where
  run
    | [] => .error ⟨reason, []⟩
    | token :: rest =>
      match wanted token with
      | some value => .ok (value, rest)
      | none => .error ⟨reason, token :: rest⟩

def expect (kind : TokenKind) : Reader Unit :=
  accept (fun token => if token.kind = kind then some () else none) (.expected kind)

/-- Take the next token if it is of a kind that means nothing here. -/
def skip (unwanted : TokenKind → Bool) : Reader Unit where
  run
    | [] => .ok ((), [])
    | token :: rest => .ok ((), if unwanted token.kind then rest else token :: rest)

/-- Every success takes at least `least` tokens from the front. -/
def Takes (least : Nat) (reader : Reader α) : Prop :=
  ∀ ⦃tokens value rest⦄, reader.run tokens = .ok (value, rest) →
    ∃ used, tokens = used ++ rest ∧ least ≤ used.length

theorem Takes.length_le {least : Nat} {reader : Reader α} (takes : reader.Takes least)
    {tokens rest : List Token} {value : α} (h : reader.run tokens = .ok (value, rest)) :
    least + rest.length ≤ tokens.length := by
  obtain ⟨used, rfl, long⟩ := takes h
  simp only [List.length_append]
  omega

theorem Takes.isSuffix {least : Nat} {reader : Reader α} (takes : reader.Takes least)
    {tokens rest : List Token} {value : α} (h : reader.run tokens = .ok (value, rest)) :
    rest <:+ tokens :=
  let ⟨used, same, _⟩ := takes h
  ⟨used, same.symm⟩

theorem takes_pure (value : α) : Takes 0 (pure value : Reader α) := by
  intro tokens value rest h
  cases h
  exact ⟨[], rfl, Nat.le_refl 0⟩

theorem takes_reject (least : Nat) (reason : Reason) :
    Takes least (reject reason : Reader α) := by
  intro tokens value rest h
  cases h

theorem takes_inspect (view : List Token → α) : Takes 0 (inspect view) := by
  intro tokens value rest h
  cases h
  exact ⟨[], rfl, Nat.le_refl 0⟩

theorem takes_accept (wanted : Token → Option α) (reason : Reason) :
    Takes 1 (accept wanted reason) := by
  intro tokens value rest h
  cases tokens with
  | nil => cases h
  | cons token tokens =>
    simp only [accept] at h
    split at h <;> cases h
    exact ⟨[token], rfl, Nat.le_refl 1⟩

theorem takes_expect (kind : TokenKind) : Takes 1 (expect kind) := takes_accept _ _

theorem takes_skip (unwanted : TokenKind → Bool) : Takes 0 (skip unwanted) := by
  intro tokens value rest h
  cases tokens with
  | nil =>
    cases h
    exact ⟨[], rfl, Nat.le_refl 0⟩
  | cons token tokens =>
    simp only [skip] at h
    split at h <;> cases h
    · exact ⟨[token], rfl, Nat.zero_le _⟩
    · exact ⟨[], rfl, Nat.le_refl 0⟩

theorem Takes.mono {least less : Nat} {reader : Reader α} (takes : reader.Takes least)
    (le : less ≤ least) : reader.Takes less := by
  intro tokens value rest h
  obtain ⟨used, same, long⟩ := takes h
  exact ⟨used, same, Nat.le_trans le long⟩

theorem Takes.weaken {least : Nat} {reader : Reader α} (takes : reader.Takes least) :
    reader.Takes 0 :=
  takes.mono (Nat.zero_le least)

theorem Takes.bind {least more : Nat} {reader : Reader α} {next : α → Reader β}
    (takes : reader.Takes least) (after : ∀ value, (next value).Takes more) :
    (reader >>= next).Takes (least + more) := by
  intro tokens value rest h
  cases found : reader.run tokens with
  | error rejection => rw [run_bind_of_error found] at h; cases h
  | ok result =>
    obtain ⟨middle, between⟩ := result
    rw [run_bind_of_ok found] at h
    obtain ⟨first, rfl, long⟩ := takes found
    obtain ⟨second, rfl, longer⟩ := after middle h
    exact ⟨first ++ second, (List.append_assoc ..).symm, by rw [List.length_append]; omega⟩

/-- What comes first takes enough. -/
theorem Takes.bind_of_first {least : Nat} {reader : Reader α} {next : α → Reader β}
    (takes : reader.Takes least) (after : ∀ value, (next value).Takes 0) :
    (reader >>= next).Takes least :=
  takes.bind after

/-- What comes later takes enough. -/
theorem Takes.bind_of_next {least : Nat} {reader : Reader α} {next : α → Reader β}
    (takes : reader.Takes 0) (after : ∀ value, (next value).Takes least) :
    (reader >>= next).Takes least :=
  (takes.bind after).mono (by omega)

end Reader

end DotGraph
