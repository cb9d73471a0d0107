import DotGraph.Proofs.Faults
import DotGraph.Proofs.Newline

/-!
# Where strings end

The scanner of strings takes a backslash together with the character after it. Said of the whole
string, it ends at the first quote directly before which an even number of backslashes stands, and
it has no end if there is no such quote. What it stands for is told piece by piece
(`Token.string_ends`).
-/

namespace DotGraph

namespace Lexeme

/-! ### Backslashes before a quote -/

/-- How many backslashes a text ends with. -/
def backslashes (text : List Char) : Nat := (text.reverse.takeWhile (· == '\\')).length

theorem backslashes_cons_of_ne {c : Char} (other : c ≠ '\\') (text : List Char) :
    backslashes (c :: text) = backslashes text := by
  unfold backslashes
  rw [List.reverse_cons, takeWhile_append_of_stops (by simpa using other)]

/-- A backslash and the character after it do not change the parity of the backslashes at the end:
either they end before it, or there are two more. -/
theorem backslashes_pair (c : Char) (text : List Char) :
    backslashes ('\\' :: c :: text) % 2 = backslashes text % 2 := by
  unfold backslashes
  rw [List.reverse_cons, List.reverse_cons, List.append_assoc, List.singleton_append]
  by_cases same : c = '\\'
  · subst same
    rw [List.takeWhile_append]
    split
    · next whole => simp [whole]
    · rfl
  · rw [takeWhile_append_of_stops (by simpa using same)]

/-- The quote after a text, with which another one begins, has an even number of backslashes
directly before it. -/
def ClosedAfter (s body : List Char) : Prop := body ++ ['"'] <+: s ∧ backslashes body % 2 = 0

/-- No earlier quote has an even number of backslashes before it. -/
def FirstClosedAfter (s body : List Char) : Prop :=
  ClosedAfter s body ∧ ∀ other, ClosedAfter s other → body.length ≤ other.length

theorem closedAfter_pair {c : Char} {rest body : List Char} :
    ClosedAfter ('\\' :: c :: rest) body ↔
      ∃ inner, ClosedAfter rest inner ∧ '\\' :: c :: inner = body := by
  constructor
  · rintro ⟨inside, even⟩
    rcases body with _ | ⟨d, body⟩
    · cases (List.cons_prefix_cons.mp inside).1
    obtain ⟨rfl, within⟩ := List.cons_prefix_cons.mp inside
    rcases body with _ | ⟨e, inner⟩
    · -- the quote is the partner of the backslash
      cases even
    obtain ⟨rfl, later⟩ := List.cons_prefix_cons.mp within
    exact ⟨inner, ⟨later, (backslashes_pair e inner).symm.trans even⟩, rfl⟩
  · rintro ⟨inner, ⟨inside, even⟩, rfl⟩
    refine ⟨?_, (backslashes_pair c inner).trans even⟩
    exact (List.prefix_cons_inj _).mpr ((List.prefix_cons_inj c).mpr inside)

theorem closedAfter_plain {c : Char} (noBackslash : c ≠ '\\') (noQuote : c ≠ '"')
    {rest body : List Char} :
    ClosedAfter (c :: rest) body ↔ ∃ inner, ClosedAfter rest inner ∧ c :: inner = body := by
  constructor
  · rintro ⟨inside, even⟩
    cases body with
    | nil => exact absurd (List.cons_prefix_cons.mp inside).1.symm noQuote
    | cons d inner =>
      obtain ⟨rfl, within⟩ := List.cons_prefix_cons.mp inside
      rw [backslashes_cons_of_ne noBackslash] at even
      exact ⟨inner, ⟨within, even⟩, rfl⟩
  · rintro ⟨inner, ⟨inside, even⟩, rfl⟩
    refine ⟨(List.prefix_cons_inj c).mpr inside, ?_⟩
    rwa [backslashes_cons_of_ne noBackslash]

theorem not_closedAfter_nil {body : List Char} : ¬ ClosedAfter [] body := by
  rintro ⟨inside, -⟩
  simpa using List.prefix_nil.mp inside

theorem not_closedAfter_backslash {body : List Char} : ¬ ClosedAfter ['\\'] body := by
  rintro ⟨⟨later, same⟩, -⟩
  cases body with
  | nil => cases same
  | cons d inner => simpa using congrArg List.length same

/-- If what is closed in a text is closed in what it goes on with, so is what is closed first. -/
theorem firstClosedAfter_of_step {s rest : List Char} (front : List Char)
    (step : ∀ body, ClosedAfter s body ↔ ∃ inner, ClosedAfter rest inner ∧ front ++ inner = body)
    (body : List Char) :
    FirstClosedAfter s body ↔ ∃ inner, FirstClosedAfter rest inner ∧ front ++ inner = body := by
  constructor
  · rintro ⟨closed, first⟩
    obtain ⟨inner, closed', rfl⟩ := (step body).mp closed
    refine ⟨inner, ⟨closed', fun other later => ?_⟩, rfl⟩
    have shorter := first _ ((step _).mpr ⟨other, later, rfl⟩)
    rw [List.length_append, List.length_append] at shorter
    exact Nat.le_of_add_le_add_left shorter
  · rintro ⟨inner, ⟨closed, first⟩, rfl⟩
    refine ⟨(step _).mpr ⟨inner, closed, rfl⟩, fun other later => ?_⟩
    obtain ⟨inner', closed', rfl⟩ := (step other).mp later
    rw [List.length_append, List.length_append]
    exact Nat.add_le_add_left (first inner' closed') _

/-- The scanner takes a string through the first quote that closes it. -/
theorem literalBody?_eq_some_iff {s body : List Char} :
    literalBody? s = some body ↔ FirstClosedAfter s body := by
  fun_induction literalBody? s generalizing body with
  | case1 rest =>
    have here : ClosedAfter ('"' :: rest) [] := ⟨⟨rest, rfl⟩, rfl⟩
    constructor
    · intro found
      cases found
      exact ⟨here, fun _ _ => Nat.zero_le _⟩
    · rintro ⟨-, first⟩
      rw [List.eq_nil_of_length_eq_zero (Nat.le_zero.mp (first [] here))]
  | case2 c rest ih =>
    rw [Option.map_eq_some_iff, firstClosedAfter_of_step ['\\', c] fun _ => closedAfter_pair]
    simp only [ih]
    rfl
  | case3 c rest noQuote noPair ih =>
    by_cases backslash : c = '\\'
    · -- a backslash without a partner ends the text
      subst backslash
      cases rest with
      | nil =>
        constructor
        · intro found
          cases found
        · intro first
          exact absurd first.1 not_closedAfter_backslash
      | cons d rest => exact absurd rfl (noPair d rest rfl)
    · rw [Option.map_eq_some_iff,
        firstClosedAfter_of_step [c] fun _ => closedAfter_plain backslash noQuote]
      simp only [ih]
      rfl
  | case4 =>
    constructor
    · intro found
      cases found
    · intro first
      exact absurd first.1 not_closedAfter_nil

/-- Where something is closed, something is closed first. -/
theorem ClosedAfter.exists_first {s body : List Char} (closed : ClosedAfter s body) :
    ∃ first, FirstClosedAfter s first := by
  induction size : body.length using Nat.strongRecOn generalizing body with
  | ind size' ih =>
    by_cases earlier : ∃ other, ClosedAfter s other ∧ other.length < body.length
    · obtain ⟨other, closed', shorter⟩ := earlier
      exact ih _ (size ▸ shorter) closed' rfl
    · refine ⟨body, closed, fun other closed' => ?_⟩
      exact Nat.le_of_not_lt fun shorter => earlier ⟨other, closed', shorter⟩

theorem literalBody?_eq_none_iff_forall {s : List Char} :
    literalBody? s = none ↔ ∀ body, ¬ ClosedAfter s body := by
  constructor
  · intro none body closed
    obtain ⟨first, isFirst⟩ := closed.exists_first
    cases none.symm.trans (literalBody?_eq_some_iff.mpr isFirst)
  · intro unclosed
    cases found : literalBody? s with
    | none => rfl
    | some body => exact absurd (literalBody?_eq_some_iff.mp found).1 (unclosed body)

/-! ### Pieces -/

/-- A backslash with the character after it, or a character alone. -/
inductive Piece
  | pair (c : Char)
  | single (c : Char)
  deriving DecidableEq

namespace Piece

def text : Piece → List Char
  | .pair c => ['\\', c]
  | .single c => [c]

/-- What a piece stands for: a quote for a pair with a quote, nothing for a pair with a newline,
and itself otherwise. -/
def value : Piece → List Char
  | .pair '"' => ['"']
  | .pair '\n' => []
  | piece => piece.text

end Piece

/-- A text falls into pieces, and none of them is a backslash alone. -/
def Splits (pieces : List Piece) (text : List Char) : Prop :=
  pieces.flatMap Piece.text = text ∧ .single '\\' ∉ pieces

theorem splits_nil : Splits [] [] := ⟨rfl, by simp⟩

theorem Splits.cons (piece : Piece) {pieces : List Piece} {text : List Char}
    (alone : piece ≠ .single '\\') (splits : Splits pieces text) :
    Splits (piece :: pieces) (piece.text ++ text) := by
  refine ⟨by rw [List.flatMap_cons, splits.1], ?_⟩
  rw [List.mem_cons, not_or]
  exact ⟨alone.symm, splits.2⟩

/-- What stands between the quotes of a string falls into pieces. -/
theorem Literal.exists_splits {body value : List Char} (literal : Literal body value) :
    ∃ pieces, Splits pieces body := by
  induction literal with
  | nil => exact ⟨[], splits_nil⟩
  | quote _ ih =>
    obtain ⟨pieces, splits⟩ := ih
    exact ⟨_, splits.cons (.pair '"') (by simp)⟩
  | continuation _ ih =>
    obtain ⟨pieces, splits⟩ := ih
    exact ⟨_, splits.cons (.pair '\n') (by simp)⟩
  | @escape c _ _ _ _ _ ih =>
    obtain ⟨pieces, splits⟩ := ih
    exact ⟨_, splits.cons (.pair c) (by simp)⟩
  | @plain c _ _ noBackslash _ _ ih =>
    obtain ⟨pieces, splits⟩ := ih
    exact ⟨_, splits.cons (.single c) (by simpa using noBackslash)⟩

theorem unescape_pair (c : Char) (rest : List Char) :
    unescape ('\\' :: c :: rest) = (Piece.pair c).value ++ unescape rest := by
  by_cases quote : c = '"'
  · subst quote
    rfl
  by_cases newline : c = '\n'
  · subst newline
    rfl
  rw [unescape, Piece.value]
  · rfl
  all_goals simp [quote, newline]

/-- A string stands for what its pieces stand for, one after another. -/
theorem Splits.unescape_eq {pieces : List Piece} {text : List Char} (splits : Splits pieces text) :
    unescape text = pieces.flatMap Piece.value := by
  obtain ⟨rfl, alone⟩ := splits
  induction pieces with
  | nil => rfl
  | cons piece pieces ih =>
    rw [List.mem_cons, not_or] at alone
    rw [List.flatMap_cons, List.flatMap_cons, ← ih alone.2]
    cases piece with
    | pair c => exact unescape_pair c _
    | single c =>
      have noBackslash : c ≠ '\\' := fun same => alone.1 (by rw [same])
      change unescape (c :: _) = _
      rw [unescape]
      · rfl
      all_goals
        intros
        exact noBackslash ‹_›

end Lexeme

/-! ### Places -/

open Lexeme

/-- A quote closes a string that opens at a place: it stands further on, and directly before it
within the string stands an even number of backslashes. -/
structure ClosesAt (text : List Char) (opening closing : Nat) : Prop where
  behind : opening < closing
  quote : text[closing]? = some '"'
  even : backslashes (text.extract (opening + 1) closing) % 2 = 0

/-- No quote closes the string earlier. -/
def FirstClosesAt (text : List Char) (opening closing : Nat) : Prop :=
  ClosesAt text opening closing ∧ ∀ other, ClosesAt text opening other → closing ≤ other

/-- A string that opens at a place is read through the character before another place, for a
value. -/
def ReadsString (blankLine : Bool) (text : List Char) (opening ending : Nat) (value : String) :
    Prop :=
  ∃ lexeme, nextSegment blankLine '"' (text.drop (opening + 1)) =
    .ok (.lexeme .string value lexeme) ∧ opening + lexeme.length = ending

section

variable {text : List Char} {opening : Nat}

theorem ClosesAt.closedAfter {closing : Nat} (closes : ClosesAt text opening closing) :
    ClosedAfter (text.drop (opening + 1)) (text.extract (opening + 1) closing) ∧
      opening + 1 + (text.extract (opening + 1) closing).length = closing := by
  obtain ⟨behind, quote, even⟩ := closes
  obtain ⟨distance, rfl⟩ := Nat.exists_eq_add_of_lt behind
  have inside : (text.drop (opening + 1))[distance]? = some '"' := by
    rw [List.getElem?_drop, ← quote]
    congr 1
    omega
  have long := (List.getElem?_eq_some_iff.mp inside).1
  have body : text.extract (opening + 1) (opening + distance + 1) =
      (text.drop (opening + 1)).take distance := by
    rw [List.extract_eq_take_drop]
    congr 1
    omega
  refine ⟨⟨?_, even⟩, ?_⟩
  · have next := List.take_prefix (distance + 1) (text.drop (opening + 1))
    rwa [List.take_add_one, inside, Option.toList_some, ← body] at next
  · rw [body, List.length_take]
    omega

theorem closesAt_of_closedAfter {body : List Char}
    (closed : ClosedAfter (text.drop (opening + 1)) body) :
    ClosesAt text opening (opening + 1 + body.length) ∧
      text.extract (opening + 1) (opening + 1 + body.length) = body := by
  obtain ⟨⟨later, whole⟩, even⟩ := closed
  have between : text.extract (opening + 1) (opening + 1 + body.length) = body := by
    rw [List.extract_eq_take_drop, Nat.add_sub_cancel_left, ← whole, List.append_assoc,
      List.take_left]
  refine ⟨⟨by omega, ?_, by rwa [between]⟩, between⟩
  rw [← List.getElem?_drop, ← whole, List.append_assoc, List.getElem?_append_right (Nat.le_refl _),
    Nat.sub_self]
  rfl

theorem firstClosesAt_iff {closing : Nat} :
    FirstClosesAt text opening closing ↔
      ∃ body, FirstClosedAfter (text.drop (opening + 1)) body ∧
        opening + 1 + body.length = closing ∧ text.extract (opening + 1) closing = body := by
  constructor
  · rintro ⟨closes, first⟩
    obtain ⟨closed, place⟩ := closes.closedAfter
    refine ⟨_, ⟨closed, fun other closed' => ?_⟩, place, rfl⟩
    have later := first _ (closesAt_of_closedAfter closed').1
    omega
  · rintro ⟨body, ⟨closed, first⟩, rfl, -⟩
    refine ⟨(closesAt_of_closedAfter closed).1, fun other closes => ?_⟩
    obtain ⟨closed', place⟩ := closes.closedAfter
    have later := first _ closed'
    omega

theorem readsString_iff_body {blankLine : Bool} {ending : Nat} {value : String} :
    ReadsString blankLine text opening ending value ↔
      ∃ body, literalBody? (text.drop (opening + 1)) = some body ∧
        value = String.ofList (unescape body) ∧ opening + 1 + body.length + 1 = ending := by
  unfold ReadsString
  rw [nextSegment_quote]
  cases found : literalBody? (text.drop (opening + 1)) with
  | none =>
    constructor
    · rintro ⟨lexeme, ⟨⟩, -⟩
    · rintro ⟨body, ⟨⟩, -⟩
  | some body =>
    constructor
    · rintro ⟨lexeme, cut, rfl⟩
      cases cut
      exact ⟨body, rfl, rfl, by simp; omega⟩
    · rintro ⟨body', same, rfl, rfl⟩
      cases same
      exact ⟨_, rfl, by simp; omega⟩

/-- A string is read through the first quote that closes it, for what its pieces stand for. -/
theorem readsString_iff {blankLine : Bool} {ending : Nat} {value : String} :
    ReadsString blankLine text opening ending value ↔
      ∃ closing, FirstClosesAt text opening closing ∧ ending = closing + 1 ∧
        ∃ pieces, Splits pieces (text.extract (opening + 1) closing) ∧
          value = String.ofList (pieces.flatMap Piece.value) := by
  rw [readsString_iff_body]
  constructor
  · rintro ⟨body, found, rfl, rfl⟩
    obtain ⟨_, literal⟩ := literal_of_literalBody? found
    obtain ⟨pieces, splits⟩ := literal.exists_splits
    have first := literalBody?_eq_some_iff.mp found
    have between := (closesAt_of_closedAfter first.1).2
    refine ⟨_, firstClosesAt_iff.mpr ⟨body, first, rfl, between⟩, rfl, pieces, ?_, ?_⟩
    · rwa [between]
    · rw [splits.unescape_eq]
  · rintro ⟨closing, first, rfl, pieces, splits, rfl⟩
    obtain ⟨body, first', place, between⟩ := firstClosesAt_iff.mp first
    rw [between] at splits
    exact ⟨body, literalBody?_eq_some_iff.mpr first', by rw [splits.unescape_eq], by rw [place]⟩

theorem unterminated_iff {blankLine : Bool} :
    nextSegment blankLine '"' (text.drop (opening + 1)) = .error .unterminatedString ↔
      ∀ closing, ¬ ClosesAt text opening closing := by
  have none : nextSegment blankLine '"' (text.drop (opening + 1)) = .error .unterminatedString ↔
      literalBody? (text.drop (opening + 1)) = none := by
    rw [nextSegment_quote]
    cases literalBody? (text.drop (opening + 1)) <;> simp
  rw [none, literalBody?_eq_none_iff_forall]
  constructor
  · intro unclosed closing closes
    exact unclosed _ closes.closedAfter.1
  · intro unclosed body closed
    exact unclosed _ (closesAt_of_closedAfter closed).1

theorem drop_of_quote (quote : text[opening]? = some '"') :
    text.drop opening = '"' :: text.drop (opening + 1) := by
  obtain ⟨inside, same⟩ := List.getElem?_eq_some_iff.mp quote
  rw [List.drop_eq_getElem_cons inside, same]

/-- At a quote where segments end, the string that opens there is the next segment. -/
theorem mem_frontTokens_of_readsString {source : String}
    (boundary : Boundary source.toList opening) (quote : source.toList[opening]? = some '"')
    {blankLine : Bool} {ending : Nat} {value : String}
    (reads : ReadsString blankLine source.toList opening ending value) :
    ⟨.string, value, opening⟩ ∈ frontTokens source ∧ Boundary source.toList ending := by
  obtain ⟨front, ⟨later, split⟩, rfl⟩ := boundary
  obtain ⟨lexeme, cut, rfl⟩ := reads
  -- a string is cut off alike on every line
  rw [nextSegment_quote, ← nextSegment_quote (blankLineAfter true (source.toList.take _))] at cut
  have others := scan_drop_width split.symm
  rw [drop_of_quote quote, scan_of_ok cut] at others
  obtain ⟨rfl, -⟩ := Scan.mk.inj others
  constructor
  · rw [frontTokens, ← split, Segment.tokens_append, Nat.zero_add]
    exact List.mem_append_right _ List.mem_cons_self
  · refine ⟨front ++ [.lexeme .string value lexeme], ?_, ?_⟩
    · rw [← split, List.prefix_append_right_inj]
      exact List.prefix_append ..
    · rw [Segment.width_append]
      rfl

theorem tokenize_unterminated_iff {source : String}
    (boundary : Boundary source.toList opening) (quote : source.toList[opening]? = some '"') :
    Token.tokenize source = .error (.ofOffset source opening .unterminatedString) ↔
      ∀ closing, ¬ ClosesAt source.toList opening closing := by
  have fault_iff : Fault (source.toList.take opening) (source.toList.drop opening)
      .unterminatedString ↔ ∀ closing, ¬ ClosesAt source.toList opening closing := by
    rw [drop_of_quote quote, ← nextSegment_eq_error_iff, unterminated_iff]
  rw [← fault_iff]
  constructor
  · intro fails
    cases found : (scan true source.toList).failure? with
    | none =>
      rw [Token.tokenize_of_none found] at fails
      cases fails
    | some reason =>
      rw [Token.tokenize_of_some found, Except.error.injEq] at fails
      obtain ⟨rfl, rfl, -⟩ := SyntaxError.mk.inj fails
      exact fault_of_scan found
  · intro fault
    obtain ⟨front, ⟨later, split⟩, rfl⟩ := boundary
    obtain ⟨rfl, fails⟩ := failure_of_fault split.symm fault
    rw [List.append_nil] at split
    rw [split]
    exact Token.tokenize_of_some fails

end

namespace Token

/-- A string that opens at a quote is read through another place just if the character before that
place is the first quote after the opening one that an even number of backslashes stands before,
and it stands for what the pieces between the quotes do. It is unterminated, at the opening quote,
just if there is no such quote. Cutting a text into tokens enters a string at a quote where segments
end; then the string is one of the tokens, or the text fails there. -/
theorem string_ends (source : String) (opening : Nat)
    (quote : source.toList[opening]? = some '"') :
    (∀ blankLine ending value, ReadsString blankLine source.toList opening ending value ↔
      ∃ closing, FirstClosesAt source.toList opening closing ∧ ending = closing + 1 ∧
        ∃ pieces, Splits pieces (source.toList.extract (opening + 1) closing) ∧
          value = String.ofList (pieces.flatMap Piece.value)) ∧
    (∀ blankLine, nextSegment blankLine '"' (source.toList.drop (opening + 1)) =
        .error .unterminatedString ↔ ∀ closing, ¬ ClosesAt source.toList opening closing) ∧
    (Boundary source.toList opening →
      (∀ blankLine ending value, ReadsString blankLine source.toList opening ending value →
        ⟨.string, value, opening⟩ ∈ frontTokens source ∧ Boundary source.toList ending) ∧
      (tokenize source = .error (.ofOffset source opening .unterminatedString) ↔
        ∀ closing, ¬ ClosesAt source.toList opening closing)) := by
  refine ⟨fun _ _ _ => readsString_iff, fun _ => unterminated_iff, fun boundary => ⟨?_, ?_⟩⟩
  · intro blankLine ending value reads
    exact mem_frontTokens_of_readsString boundary quote reads
  · exact tokenize_unterminated_iff boundary quote

/-- A semicolon, a string with an escaped quote, an escaped newline and an escaped backslash, and
one that an escaped quote leaves open. -/
theorem string_ends_escaped :
    (";\"\\\"\\\n\\\\\"\"\\\"".toList[1]? = some '"' ∧
      FirstClosesAt ";\"\\\"\\\n\\\\\"\"\\\"".toList 1 8 ∧
      ReadsString true ";\"\\\"\\\n\\\\\"\"\\\"".toList 1 9 "\"\\\\") ∧
    ";\"\\\"\\\n\\\\\"\"\\\"".toList[9]? = some '"' ∧
      tokenize ";\"\\\"\\\n\\\\\"\"\\\"" =
        .error (.ofOffset ";\"\\\"\\\n\\\\\"\"\\\"" 9 .unterminatedString) := by
  have cut : scan true ";\"\\\"\\\n\\\\\"\"\\\"".toList =
      ⟨[.verbatim .semicolon [';'], .quoted ['\\', '"', '\\', '\n', '\\', '\\']],
        some .unterminatedString⟩ := by
    cbv
  have first : FirstClosesAt ";\"\\\"\\\n\\\\\"\"\\\"".toList 1 8 := by
    refine ⟨⟨by decide, by decide, by decide⟩, fun other closes => Nat.le_of_not_lt fun earlier => ?_⟩
    have odd : ∀ other < 8, 1 < other → ";\"\\\"\\\n\\\\\"\"\\\"".toList[other]? = some '"' →
        ¬ backslashes (";\"\\\"\\\n\\\\\"\"\\\"".toList.extract 2 other) % 2 = 0 := by
      decide
    exact odd other earlier closes.behind closes.quote closes.even
  obtain ⟨reads, -, -⟩ := string_ends ";\"\\\"\\\n\\\\\"\"\\\"" 1 (by decide)
  obtain ⟨-, -, enters⟩ := string_ends ";\"\\\"\\\n\\\\\"\"\\\"" 9 (by decide)
  refine ⟨⟨by decide, first, ?_⟩, by decide, ?_⟩
  · exact (reads true 9 _).mpr ⟨8, first, rfl, [.pair '"', .pair '\n', .pair '\\'],
      ⟨by decide, by decide⟩, by decide⟩
  · refine (enters ⟨_, List.prefix_rfl, by rw [cut]; decide⟩).2.mpr fun closing closes => ?_
    have odd : ∀ closing < 12, 9 < closing →
        ";\"\\\"\\\n\\\\\"\"\\\"".toList[closing]? = some '"' →
        ¬ backslashes (";\"\\\"\\\n\\\\\"\"\\\"".toList.extract 10 closing) % 2 = 0 := by
      decide
    exact odd closing (List.getElem?_eq_some_iff.mp closes.quote).1 closes.behind closes.quote
      closes.even

end Token

end DotGraph
