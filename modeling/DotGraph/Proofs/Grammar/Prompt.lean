import DotGraph.Proofs.Printing

/-!
# Prompt readers

A reader is prompt if it takes no token that it could not go on from, and rejects the first token
that it cannot take. So whatever it has taken, if anything, some tokens complete; and what it
answers depends on what it takes and on the one token after that, so no tokens after one that it
rejects would help.
-/

namespace DotGraph.Reader

open Spelling (AllWritable allWritable_nil allWritable_append place)

variable {α β : Type}

/-- The tokens that an answer leaves. -/
def remainder : Except Rejection (α × List Token) → List Token
  | .error rejection => rejection.rest
  | .ok result => result.2

/-- The same answer where other tokens are left. -/
def leaving (rest : List Token) :
    Except Rejection (α × List Token) → Except Rejection (α × List Token)
  | .error rejection => .error ⟨rejection.reason, rest⟩
  | .ok result => .ok (result.1, rest)

theorem leaving_remainder (answer : Except Rejection (α × List Token)) :
    leaving (remainder answer) answer = answer := by
  cases answer <;> rfl

theorem remainder_leaving (rest : List Token) (answer : Except Rejection (α × List Token)) :
    remainder (leaving rest answer) = rest := by
  cases answer <;> rfl

theorem leaving_leaving (rest rest' : List Token) (answer : Except Rejection (α × List Token)) :
    leaving rest (leaving rest' answer) = leaving rest answer := by
  cases answer <;> rfl

/-- Some tokens that can be written, the first of which is as it has to be, complete what was taken
before: the reader then leaves whatever may follow. -/
def Completable (used : List Token) (reader : Reader α) (start follow : TokenKind → Prop) : Prop :=
  ∃ (more : Spelling) (value : α), AllWritable more ∧ ∀ rest, follow (nextKind rest) →
    start (nextKind (more.map place ++ rest)) ∧
      reader.run (used ++ (more.map place ++ rest)) = .ok (value, rest)

/-- On these tokens the reader takes some, and is prompt. The end of input is never taken. -/
structure TakesPromptly (follow : TokenKind → Prop) (reader : Reader α)
    (input used : List Token) : Prop where
  split : input = used ++ remainder (reader.run input)
  inside : ∀ token ∈ used, token.kind ≠ .endOfInput
  ahead : ∀ rest, rest.head? = (remainder (reader.run input)).head? →
    reader.run (used ++ rest) = leaving rest (reader.run input)
  completable : used ≠ [] → Completable used reader (fun _ => True) follow

def PromptOn (follow : TokenKind → Prop) (reader : Reader α) (input : List Token) : Prop :=
  ∃ used, TakesPromptly follow reader input used

def Prompt (follow : TokenKind → Prop) (reader : Reader α) : Prop :=
  ∀ input, PromptOn follow reader input

/-- The reader is prompt, and there are tokens to begin with. -/
structure Ready (start follow : TokenKind → Prop) (reader : Reader α) : Prop where
  prompt : Prompt follow reader
  completable : Completable [] reader start follow

variable {start between follow : TokenKind → Prop}

/-! ### What completes -/

theorem Completable.bind {used : List Token} {reader : Reader α} {next : α → Reader β}
    (first : Completable used reader start between)
    (resume : ∀ value, Completable [] (next value) between follow) :
    Completable used (reader >>= next) start follow := by
  obtain ⟨more, value, writable, completes⟩ := first
  obtain ⟨later, result, writable', resumes⟩ := resume value
  refine ⟨more ++ later, result, allWritable_append.mpr ⟨writable, writable'⟩, fun rest fits => ?_⟩
  have ⟨meets, goesOn⟩ := resumes rest fits
  have ⟨begins, taken⟩ := completes _ meets
  rw [List.map_append, List.append_assoc]
  exact ⟨begins, (run_bind_of_ok taken next).trans goesOn⟩

/-- A reader that may take nothing. -/
theorem completable_of_run {reader : Reader α} (value : α)
    (same : ∀ kind, follow kind → start kind)
    (taken : ∀ rest, follow (nextKind rest) → reader.run rest = .ok (value, rest)) :
    Completable [] reader start follow :=
  ⟨[], value, allWritable_nil, fun rest fits => ⟨same _ fits, taken rest fits⟩⟩

/-- A reader that may take one token. -/
theorem completable_of_token {reader : Reader α} (value : α) {token : TokenKind × String}
    (writable : Token.Writable token) (begins : start token.1)
    (taken : ∀ rest, reader.run (place token :: rest) = .ok (value, rest)) :
    Completable [] reader start follow :=
  ⟨[token], value, Spelling.allWritable_cons.mpr ⟨writable, allWritable_nil⟩,
    fun rest _ => ⟨begins, taken rest⟩⟩

/-! ### Readers of at most one token -/

/-- A reader that takes nothing. -/
theorem promptOn_of_nothing {reader : Reader α} {input : List Token}
    (split : remainder (reader.run input) = input)
    (ahead : ∀ rest, rest.head? = input.head? → reader.run rest = leaving rest (reader.run input)) :
    PromptOn follow reader input :=
  ⟨[], split.symm, List.forall_mem_nil _, fun rest same => ahead rest (by rw [same, split]),
    fun some => absurd rfl some⟩

theorem prompt_pure (value : α) : Prompt follow (pure value) := fun _ =>
  promptOn_of_nothing rfl fun _ _ => rfl

theorem prompt_reject (reason : Reason) : Prompt follow (reject reason : Reader α) := fun _ =>
  promptOn_of_nothing rfl fun _ _ => rfl

theorem ready_pure (value : α) (same : ∀ kind, follow kind → start kind) :
    Ready start follow (pure value) :=
  ⟨prompt_pure value, completable_of_run value same fun _ _ => rfl⟩

/-- A reader that takes one token whatever follows. -/
theorem promptOn_of_token {reader : Reader α} {token : Token} (value : α)
    (inside : token.kind ≠ .endOfInput) (tokens : List Token)
    (taken : ∀ rest, reader.run (token :: rest) = .ok (value, rest)) :
    PromptOn follow reader (token :: tokens) := by
  refine ⟨[token], ?_, ?_, fun rest _ => ?_, fun _ => ⟨[], value, allWritable_nil, fun rest _ =>
    ⟨trivial, taken rest⟩⟩⟩
  · rw [taken]
    rfl
  · simpa using inside
  · rw [List.singleton_append, taken, taken]
    rfl

/-- A reader that answers one token without taking it, whatever follows. -/
theorem promptOn_of_kept {reader : Reader α} {token : Token}
    (answer : Except Rejection (α × List Token)) (tokens : List Token)
    (kept : ∀ rest, reader.run (token :: rest) = leaving (token :: rest) answer) :
    PromptOn follow reader (token :: tokens) := by
  apply promptOn_of_nothing
  · rw [kept, remainder_leaving]
  · intro rest same
    obtain ⟨rest', rfl⟩ := List.head?_eq_some_iff.mp same
    rw [kept, kept, leaving_leaving]

theorem promptOn_nil {reader : Reader α} (split : remainder (reader.run []) = []) :
    PromptOn follow reader [] := by
  apply promptOn_of_nothing split
  intro rest same
  obtain rfl := List.head?_eq_none_iff.mp same
  have unchanged := leaving_remainder (reader.run [])
  rw [split] at unchanged
  exact unchanged.symm

/-- A reader of a token that has a property. One that can be written has it. -/
theorem ready_accept_if {p : Token → Prop} [DecidablePred p] {value : Token → α} {reason : Reason}
    (inside : ∀ token, p token → token.kind ≠ .endOfInput) {token : TokenKind × String}
    (writable : Token.Writable token) (wanted : p (place token)) (begins : start token.1) :
    Ready start (fun _ => True)
      (accept (fun token => if p token then some (value token) else none) reason) where
  prompt
    | [] => promptOn_nil rfl
    | token :: tokens => by
      by_cases fits : p token
      · exact promptOn_of_token (value token) (inside token fits) tokens fun rest => by
          simp [accept, fits]
      · exact promptOn_of_kept (.error ⟨reason, []⟩) tokens fun rest => by
          simp [accept, fits, leaving]
  completable := completable_of_token (value (place token)) writable begins fun rest => by
    simp [accept, wanted]

theorem ready_expect {kind : TokenKind} (text : String) (inside : kind ≠ .endOfInput)
    (writable : Token.Writable (kind, text)) (begins : start kind) :
    Ready start (fun _ => True) (expect kind) :=
  ready_accept_if (fun _ same => same ▸ inside) writable rfl begins

theorem ready_keyword {of? : Keyword → Option α} {reason : Reason} (keyword : Keyword)
    (wanted : (of? keyword).isSome) (begins : start .identifier) :
    Ready start (fun _ => True) (accept (fun token => token.keyword?.bind of?) reason) where
  prompt
    | [] => promptOn_nil rfl
    | token :: tokens => by
      cases found : token.keyword?.bind of? with
      | some value =>
        obtain ⟨keyword, spelled, -⟩ := Option.bind_eq_some_iff.mp found
        have inside : token.kind ≠ .endOfInput := by
          rw [Token.kind_of_keyword? spelled]
          decide
        exact promptOn_of_token value inside tokens fun rest => by simp [accept, found]
      | none =>
        exact promptOn_of_kept (.error ⟨reason, []⟩) tokens fun rest => by
          simp [accept, found, leaving]
  completable := by
    obtain ⟨value, means⟩ := Option.isSome_iff_exists.mp wanted
    have spelled : (place (.identifier, keyword.name)).keyword? = some keyword :=
      keyword.ofWord?_name
    exact completable_of_token value (Token.writable_keyword keyword) begins fun rest => by
      simp [accept, spelled, means]

theorem ready_skip {unwanted : TokenKind → Bool} (inside : unwanted .endOfInput = false)
    (stops : ∀ kind, follow kind → start kind ∧ unwanted kind = false) :
    Ready start follow (skip unwanted) where
  prompt
    | [] => promptOn_nil rfl
    | token :: tokens => by
      by_cases skipped : unwanted token.kind = true
      · exact promptOn_of_token () (TokenKind.ne_of_class skipped inside) tokens fun rest => by
          simp [skip, skipped]
      · exact promptOn_of_kept (.ok ((), [])) tokens fun rest => by simp [skip, skipped, leaving]
  completable := completable_of_run () (fun kind fits => (stops kind fits).1) fun rest fits => by
    cases rest with
    | nil => rfl
    | cons token rest =>
      have kept : unwanted token.kind = false := (stops _ fits).2
      simp [skip, kept]

/-! ### One reader after another -/

theorem head?_append_of_some {used : List Token} (some : used ≠ []) (rest rest' : List Token) :
    (used ++ rest).head? = (used ++ rest').head? := by
  cases used with
  | nil => exact absurd rfl some
  | cons token used => rfl

theorem head?_append_congr {rest rest' : List Token} (same : rest.head? = rest'.head?)
    (used : List Token) : (used ++ rest).head? = (used ++ rest').head? := by
  rw [List.head?_append, List.head?_append, same]

/-- What is read first can be completed, and so can what comes next from where it starts. -/
theorem PromptOn.bind {reader : Reader α} {next : α → Reader β} {input : List Token}
    (first : PromptOn between reader input)
    (after : ∀ value rest, reader.run input = .ok (value, rest) → PromptOn follow (next value) rest)
    (resume : ∀ value, Completable [] (next value) between follow) :
    PromptOn follow (reader >>= next) input := by
  obtain ⟨used, taken⟩ := first
  have completes (some : used ≠ []) := (taken.completable some).bind resume
  have split := taken.split
  have ahead := taken.ahead
  cases found : reader.run input with
  | error rejection =>
    rw [found] at split ahead
    refine ⟨used, ?_, taken.inside, fun rest same => ?_, completes⟩
    · rw [run_bind_of_error found]
      exact split
    · rw [run_bind_of_error found] at same ⊢
      exact run_bind_of_error (ahead rest same) next
  | ok result =>
    obtain ⟨value, middle⟩ := result
    obtain ⟨used', taken'⟩ := after value middle found
    rw [found] at split ahead
    have goesOn {rest : List Token}
        (same : (used' ++ rest).head? = middle.head?) :
        (reader >>= next).run (used ++ (used' ++ rest)) = (next value).run (used' ++ rest) :=
      run_bind_of_ok (ahead (used' ++ rest) same) next
    have heads {rest : List Token}
        (same : rest.head? = (remainder ((next value).run middle)).head?) :
        (used' ++ rest).head? = middle.head? := by
      rw [head?_append_congr same, ← taken'.split]
    refine ⟨used ++ used', ?_, ?_, fun rest same => ?_, fun some => ?_⟩
    · rw [run_bind_of_ok found, List.append_assoc, ← taken'.split]
      exact split
    · intro token inside
      rcases List.mem_append.mp inside with here | there
      · exact taken.inside token here
      · exact taken'.inside token there
    · rw [run_bind_of_ok found] at same ⊢
      rw [List.append_assoc, goesOn (heads same)]
      exact taken'.ahead rest same
    · -- either something of what comes next was taken, which is completed, or nothing was
      by_cases none : used' = []
      · subst none
        rw [List.append_nil] at some ⊢
        exact completes some
      · obtain ⟨more, result, writable, ends⟩ := taken'.completable none
        refine ⟨more, result, writable, fun rest fits => ⟨trivial, ?_⟩⟩
        have same : (used' ++ (more.map place ++ rest)).head? = middle.head? := by
          rw [taken'.split]
          exact head?_append_of_some none _ _
        rw [List.append_assoc, goesOn same]
        exact (ends rest fits).2

theorem Prompt.bind {reader : Reader α} {next : α → Reader β} (first : Prompt between reader)
    (after : ∀ value, Ready between follow (next value)) : Prompt follow (reader >>= next) :=
  fun input => (first input).bind (fun value rest _ => (after value).prompt rest)
    fun value => (after value).completable

theorem Ready.bind {reader : Reader α} {next : α → Reader β} (first : Ready start between reader)
    (after : ∀ value, Ready between follow (next value)) : Ready start follow (reader >>= next) :=
  ⟨first.prompt.bind after, first.completable.bind fun value => (after value).completable⟩

/-! ### Choices -/

/-- What is seen of tokens is told by the first of them. -/
def SeesFirst {γ : Type} (view : List Token → γ) : Prop :=
  ∀ ⦃tokens tokens' : List Token⦄, tokens.head? = tokens'.head? → view tokens = view tokens'

theorem PromptOn.inspect {γ : Type} {view : List Token → γ} (sees : SeesFirst view)
    {next : γ → Reader α} {input : List Token} (after : PromptOn follow (next (view input)) input) :
    PromptOn follow (Reader.inspect view >>= next) input := by
  obtain ⟨used, taken⟩ := after
  have chosen {tokens : List Token} (same : tokens.head? = input.head?) :
      (Reader.inspect view >>= next).run tokens = (next (view input)).run tokens := by
    rw [← sees same, run_inspect_bind]
  refine ⟨used, ?_, taken.inside, fun rest same => ?_, fun some => ?_⟩
  · rw [chosen rfl]
    exact taken.split
  · rw [chosen rfl] at same ⊢
    rw [chosen]
    · exact taken.ahead rest same
    · rw [head?_append_congr same, ← taken.split]
  · obtain ⟨more, value, writable, ends⟩ := taken.completable some
    refine ⟨more, value, writable, fun rest fits => ⟨trivial, ?_⟩⟩
    have same : (used ++ (more.map place ++ rest)).head? = input.head? := by
      rw [taken.split]
      exact head?_append_of_some some _ _
    rw [chosen same]
    exact (ends rest fits).2

theorem prompt_inspect {γ : Type} {view : List Token → γ} (sees : SeesFirst view)
    {next : γ → Reader α} (after : ∀ seen, Prompt follow (next seen)) :
    Prompt follow (inspect view >>= next) :=
  fun input => PromptOn.inspect sees (after _ input)

theorem seesFirst_nextKind : SeesFirst nextKind := by
  rintro (_ | _) (_ | _) same
  · rfl
  · cases same
  · cases same
  · exact congrArg Token.kind (Option.some.inj same)

theorem seesFirst_nextKeyword? : SeesFirst nextKeyword? := fun _ _ same => by
  simp only [nextKeyword?, same]

theorem seesFirst_startsSubgraph : SeesFirst startsSubgraph := fun _ _ same => by
  simp only [startsSubgraph, seesFirst_nextKind same, seesFirst_nextKeyword? same]

theorem Prompt.ite {p : Prop} [Decidable p] {yes no : Reader α} (prompt : Prompt follow yes)
    (prompt' : Prompt follow no) : Prompt follow (if p then yes else no) := by
  split
  · exact prompt
  · exact prompt'

theorem Ready.ite {p : Prop} [Decidable p] {yes no : Reader α} (ready : Ready start follow yes)
    (ready' : Ready start follow no) : Ready start follow (if p then yes else no) := by
  split
  · exact ready
  · exact ready'

/-- One of two readers, as the next token tells. The second one can be gone on with, by tokens that
do not tell of the first. -/
theorem Ready.otherwise {γ : Type} {view : List Token → γ} (sees : SeesFirst view) {p : γ → Prop}
    [DecidablePred p] {yes no : Reader α} {narrower : TokenKind → Prop} (first : Prompt follow yes)
    (second : Ready narrower follow no)
    (apart : ∀ tokens, narrower (nextKind tokens) → ¬ p (view tokens))
    (begins : ∀ kind, narrower kind → start kind) :
    Ready start follow (inspect view >>= fun seen => if p seen then yes else no) where
  prompt := prompt_inspect sees fun _ => first.ite second.prompt
  completable := by
    obtain ⟨more, value, writable, completes⟩ := second.completable
    refine ⟨more, value, writable, fun rest fits => ?_⟩
    obtain ⟨meets, taken⟩ := completes rest fits
    refine ⟨begins _ meets, ?_⟩
    rw [run_inspect_bind, List.nil_append, if_neg (apart _ meets)]
    exact taken

/-! ### Repetition -/

theorem completable_repeatWhile (goOn : TokenKind → Bool) (reader : Reader α)
    (takes : reader.Takes 1) (same : ∀ kind, follow kind → start kind)
    (stops : ∀ kind, follow kind → goOn kind = false) :
    Completable [] (repeatWhile goOn reader takes) start follow :=
  completable_of_run [] same fun rest fits => by
    rw [repeatWhile_eq, run_inspect_bind, if_neg (by simp [stops _ fits])]
    rfl

theorem promptOn_repeatWhile {reader : Reader α} (prompt : Prompt between reader)
    (goOn : TokenKind → Bool) (takes : reader.Takes 1)
    (meets : ∀ kind, follow kind → between kind) (stops : ∀ kind, follow kind → goOn kind = false)
    (input : List Token) : PromptOn follow (repeatWhile goOn reader takes) input := by
  have added (value : α) (start : TokenKind → Prop) (same : ∀ kind, follow kind → start kind) :
      Completable [] (repeatWhile goOn reader takes >>= fun values => pure (value :: values)) start
        follow :=
    (completable_repeatWhile goOn reader takes same stops).bind fun values =>
      (ready_pure _ fun _ fits => fits).completable
  rw [repeatWhile_eq]
  apply PromptOn.inspect seesFirst_nextKind
  split
  · apply (prompt input).bind
    · intro value rest found
      have := takes.length_le found
      apply (promptOn_repeatWhile prompt goOn takes meets stops rest).bind
      · intro values last _
        exact prompt_pure _ last
      · intro values
        exact (ready_pure _ fun _ fits => fits).completable
    · intro value
      exact added value between meets
  · exact prompt_pure [] input
termination_by input.length

theorem Prompt.repeatWhile {reader : Reader α} (prompt : Prompt between reader)
    (goOn : TokenKind → Bool) (takes : reader.Takes 1)
    (meets : ∀ kind, follow kind → between kind) (stops : ∀ kind, follow kind → goOn kind = false)
    (same : ∀ kind, follow kind → start kind) :
    Ready start follow (repeatWhile goOn reader takes) :=
  ⟨promptOn_repeatWhile prompt goOn takes meets stops,
    completable_repeatWhile goOn reader takes same stops⟩

end DotGraph.Reader
