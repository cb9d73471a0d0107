import DotGraph.Proofs.Grammar.Declarations
import DotGraph.Proofs.Grammar.Roles
import DotGraph.Proofs.Trivia

/-!
# Writing a text in another way

A text can be written with spaces for its separators, with the other edge operators, with its names
in quotes and its keywords in other letters, each wherever one likes, and is read as the same
declarations (`GraphDecl.parse_edited`). What is written for a lexeme neither joins what stands
before it nor what stands after it, so the text is cut into the tokens that were written.
-/

namespace DotGraph

open Text Lexeme

/-! ### Letters in upper and lower case -/

namespace Text

/-- Only the upper case letters of ASCII have another lower case form. -/
theorem toLower_eq_or (c : Char) :
    c.toLower = c ∨ (65 ≤ c.toNat ∧ c.toNat ≤ 90) ∧ c.toLower.toNat = c.toNat + 32 := by
  unfold Char.toLower
  split
  · next upper =>
    have first : 65 ≤ c.toNat := UInt32.le_iff_toNat_le.mp upper.1
    have last : c.toNat ≤ 90 := UInt32.le_iff_toNat_le.mp upper.2
    refine .inr ⟨⟨first, last⟩, ?_⟩
    change (c.val + 32).toNat = c.val.toNat + 32
    rw [UInt32.toNat_add]
    exact Nat.mod_eq_of_lt (Nat.lt_of_le_of_lt (Nat.add_le_add_right last 32) (by decide))
  · exact .inl rfl

theorem isLetter_of_ascii {c : Char}
    (ascii : 65 ≤ c.toNat ∧ c.toNat ≤ 90 ∨ 97 ≤ c.toNat ∧ c.toNat ≤ 122) : isLetter c = true := by
  apply CodeRanges.contains_iff.mpr
  rcases ascii with upper | lower
  · exact ⟨_, .head _, upper⟩
  · exact ⟨_, .tail _ (.head _), lower⟩

theorem eq_or_isLetter_of_toLower_eq {c d : Char} (same : c.toLower = d.toLower) :
    c = d ∨ isLetter c = true := by
  rcases toLower_eq_or c with lower | ⟨upper, -⟩
  · rcases toLower_eq_or d with lower' | ⟨upper, code⟩
    · exact .inl (lower.symm.trans (same.trans lower'))
    · rw [← same, lower] at code
      exact .inr (isLetter_of_ascii (by omega))
  · exact .inr (isLetter_of_ascii (.inl upper))

end Text

namespace Lexeme

theorem isIdentifierStart_of_isLetter {c : Char} (letter : isLetter c = true) :
    isIdentifierStart c = true := by
  rw [isIdentifierStart, letter, Bool.true_or]

theorem isIdentifierPart_of_isIdentifierStart {c : Char} (start : isIdentifierStart c = true) :
    isIdentifierPart c = true := by
  rw [isIdentifierStart, Bool.or_eq_true] at start
  rw [isIdentifierPart, Bool.or_eq_true, Bool.or_eq_true]
  exact start.imp_left .inl

/-- A word in other upper and lower case letters is a word. -/
theorem exists_word_of_map_toLower_eq {text other : List Char} {value : String}
    (spelled : Spelled .identifier value text)
    (same : other.map Char.toLower = value.toList.map Char.toLower) :
    ∃ c rest, other = c :: rest ∧ isIdentifierStart c = true ∧
      ∀ d ∈ rest, isIdentifierPart d = true := by
  cases spelled with
  | punctuation found => cases TokenKind.isId_of_ofPunctuation? found
  | @identifier c rest start parts =>
    rw [String.toList_ofList] at same
    cases other with
    | nil => cases same
    | cons d others =>
      obtain ⟨first, later⟩ := List.cons.inj same
      refine ⟨d, others, rfl, ?_, fun e inside => ?_⟩
      · rcases eq_or_isLetter_of_toLower_eq first with rfl | letter
        · exact start
        · exact isIdentifierStart_of_isLetter letter
      · have lower : e.toLower ∈ rest.map Char.toLower := by
          rw [← later]
          exact List.mem_map_of_mem inside
        obtain ⟨f, there, equal⟩ := List.mem_map.mp lower
        rcases eq_or_isLetter_of_toLower_eq equal.symm with rfl | letter
        · exact parts e there
        · exact isIdentifierPart_of_isIdentifierStart (isIdentifierStart_of_isLetter letter)

/-- What holds no backslash and no quote can be quoted as it is. -/
theorem literal_of_plain {text : List Char} (plain : ∀ c ∈ text, c ≠ '\\' ∧ c ≠ '"') :
    Literal text text := by
  induction text with
  | nil => exact .nil
  | cons c text ih =>
    obtain ⟨noBackslash, noQuote⟩ := plain c List.mem_cons_self
    exact .plain noBackslash noQuote (ih fun d inside => plain d (List.mem_cons_of_mem _ inside))

theorem ne_of_isIdentifierPart {c d : Char} (part : isIdentifierPart c = true)
    (other : isIdentifierPart d = false) : c ≠ d := by
  rintro rfl
  cases part.symm.trans other

/-- Words and numerals in quotes are strings of the same text. -/
theorem spelled_quoted {kind : TokenKind} {value : String} {text : List Char}
    (spelled : Spelled kind value text) (bare : kind = .identifier ∨ kind = .numeral) :
    Spelled .string value ('"' :: value.toList ++ ['"']) := by
  suffices plain : value = String.ofList text ∧ ∀ c ∈ text, c ≠ '\\' ∧ c ≠ '"' by
    obtain ⟨rfl, plain⟩ := plain
    rw [String.toList_ofList]
    exact .string (literal_of_plain plain)
  cases spelled with
  | numeral isNumeral =>
    refine ⟨rfl, fun c inside => ?_⟩
    rcases isNumeral.isDigit_or_eq_of_mem inside with digit | rfl | rfl
    · constructor
      all_goals
        rintro rfl
        cases digit
    all_goals decide
  | identifier start parts =>
    refine ⟨rfl, fun c inside => ?_⟩
    have part : isIdentifierPart c = true := by
      rcases List.mem_cons.mp inside with rfl | later
      · exact isIdentifierPart_of_isIdentifierStart start
      · exact parts c later
    exact ⟨ne_of_isIdentifierPart part (by decide), ne_of_isIdentifierPart part (by decide)⟩
  | punctuation found =>
    have other := TokenKind.isId_of_ofPunctuation? found
    rcases bare with rfl | rfl <;> cases other
  | _ => rcases bare with bare | bare <;> cases bare

/-- After its first character a numeral holds digits and points only. -/
theorem Numeral.isDigit_or_eq_of_mem_tail {text : List Char} (isNumeral : Numeral text) {c : Char}
    (inside : c ∈ text.tail) : c.isDigit = true ∨ c = '.' := by
  cases isNumeral with
  | positive unsigned => exact unsigned.isDigit_or_eq_of_mem (List.mem_of_mem_tail inside)
  | negative unsigned => exact unsigned.isDigit_or_eq_of_mem inside

/-- What comes after a lexeme may change, if it does not begin to go on with it. -/
theorem Unextended.change {kind : TokenKind} {text inner rest : List Char} {c d : Char}
    (alone : Unextended kind text (inner ++ c :: rest)) (present : text ≠ [])
    (word : isIdentifierPart d = true → isIdentifierPart c = true) (digit : d.isDigit = false)
    (point : d ≠ '.') (later : List Char) : Unextended kind text (inner ++ d :: later) := by
  apply alone.of_append.append_of_ends
  · rintro isWord rfl
    rw [Bool.eq_false_iff]
    intro part
    cases (word part).symm.trans (alone.1 isWord c rfl)
  · rintro longer isNumeral ⟨more, rfl⟩
    have inside : d ∈ (text ++ inner ++ [d] ++ more).tail := by
      cases text with
      | nil => exact absurd rfl present
      | cons e text => simp
    rcases isNumeral.isDigit_or_eq_of_mem_tail inside with isDigit | isPoint
    · cases isDigit.symm.trans digit
    · exact point isPoint

end Lexeme

/-! ### Segments in place of lexemes -/

/-- A segment that can stand wherever another one does: it fits there, the line was not blank any
more after the other one, and it begins with nothing that goes on with what stands before it. -/
structure Segment.Replaces (segment other : Segment) : Prop where
  fits : ∀ {before after : List Char}, segment.Fits before after → other.Fits before after
  line : ∀ blankLine, blankLineAfter blankLine segment.text = false
  opens : ∃ c rest d later, segment.text = c :: rest ∧ other.text = d :: later ∧ c ≠ '\n' ∧
    (isIdentifierPart d = true → isIdentifierPart c = true) ∧ d.isDigit = false ∧ d ≠ '.'

/-- Segments of which some are replaced. -/
inductive Replaced : List Segment → List Segment → Prop
  | nil : Replaced [] []
  | keep {segment : Segment} {segments others : List Segment} : Replaced segments others →
      Replaced (segment :: segments) (segment :: others)
  | change {segment other : Segment} {segments others : List Segment} :
      segment.Replaces other → Replaced segments others →
      Replaced (segment :: segments) (other :: others)

namespace Replaced

variable {segments others : List Segment}

theorem unextended (replaced : Replaced segments others) {kind : TokenKind} {text : List Char}
    (inner : List Char) (present : text ≠ [])
    (alone : Unextended kind text (inner ++ segments.flatMap Segment.text)) :
    Unextended kind text (inner ++ others.flatMap Segment.text) := by
  induction replaced generalizing inner with
  | nil => exact alone
  | keep _ ih =>
    rw [List.flatMap_cons, ← List.append_assoc] at alone ⊢
    exact ih _ alone
  | change replaces _ _ =>
    -- no further than to the first replacement could the lexeme go on
    obtain ⟨c, rest, d, later, first, second, -, word, digit, point⟩ := replaces.opens
    rw [List.flatMap_cons, first, List.cons_append] at alone
    rw [List.flatMap_cons, second, List.cons_append]
    exact alone.change present word digit point _

/-- No newline is replaced. -/
theorem newline (replaced : Replaced segments others)
    (ends : ∀ c ∈ (segments.flatMap Segment.text).head?, c = '\n') :
    ∀ c ∈ (others.flatMap Segment.text).head?, c = '\n' := by
  induction replaced with
  | nil => exact ends
  | @keep segment _ _ _ ih =>
    rw [List.flatMap_cons] at ends ⊢
    cases text : segment.text with
    | nil =>
      rw [text] at ends
      exact ih ends
    | cons c rest =>
      rw [text] at ends
      exact ends
  | change replaces _ _ =>
    obtain ⟨c, rest, d, later, first, -, noNewline, -⟩ := replaces.opens
    rw [List.flatMap_cons, first, List.cons_append] at ends
    exact absurd (ends c rfl) noNewline

theorem fits (replaced : Replaced segments others) {before : List Char} {segment : Segment}
    (fits : segment.Fits before (segments.flatMap Segment.text)) :
    segment.Fits before (others.flatMap Segment.text) := by
  cases fits with
  | blank blank => exact .blank blank
  | slashes noNewline ends => exact .slashes noNewline (replaced.newline ends)
  | numberSign blankLine noNewline ends =>
    exact .numberSign blankLine noNewline (replaced.newline ends)
  | block first => exact .block first
  | lexeme spelled alone =>
    obtain ⟨c, rest, present⟩ := spelled.eq_cons
    refine .lexeme spelled (replaced.unextended [] ?_ alone)
    rw [present]
    exact List.cons_ne_nil c rest

theorem fitting (replaced : Replaced segments others) {before : List Char}
    (fitting : Fitting before segments []) : Fitting before others [] := by
  induction replaced generalizing before with
  | nil => trivial
  | keep replaced ih =>
    obtain ⟨fits, later⟩ := fitting
    rw [List.append_nil] at fits
    refine ⟨?_, ih later⟩
    rw [List.append_nil]
    exact replaced.fits fits
  | change replaces replaced ih =>
    obtain ⟨fits, later⟩ := fitting
    rw [List.append_nil] at fits
    -- what stood here left no blank line, so no comment after it needs one to begin on
    refine ⟨?_, ih (later.of_before ?_ _)⟩
    · rw [List.append_nil]
      exact replaced.fits (replaces.fits fits)
    · rw [blankLineAfter_append]
      exact replaces.line _

end Replaced

/-! ### What may be written for a token -/

/-- What may be written for a token in its role: a space for a separator, either edge operator for
one, quotes around a bare name, and a keyword in any upper and lower case letters. -/
inductive Rewording : Role → Token → Segment → Prop
  | blank {role : Role} {token : Token} : token.kind = .comma ∨ token.kind = .semicolon →
      Rewording role token (.trivia [' '])
  | arrow {role : Role} {token : Token} : token.kind.isEdgeOperator = true →
      Rewording role token (.lexeme .arrow "->" ['-', '>'])
  | line {role : Role} {token : Token} : token.kind.isEdgeOperator = true →
      Rewording role token (.lexeme .line "--" ['-', '-'])
  | quoted {token : Token} : token.kind = .identifier ∨ token.kind = .numeral →
      Rewording .name token (.lexeme .string token.text ('"' :: token.text.toList ++ ['"']))
  | recased {token : Token} {word : List Char} : token.kind = .identifier →
      word.map Char.toLower = token.text.toList.map Char.toLower →
      Rewording .keyword token (.verbatim .identifier word)

theorem Rewording.respelled {role : Role} {token : Token} {segment : Segment}
    (rewording : Rewording role token segment) (offset : Nat) :
    Respelled role token (Segment.tokens offset [segment]) := by
  cases rewording with
  | blank separator => exact .dropped separator
  | arrow operator | line operator => exact .turned operator rfl
  | quoted bare =>
    apply Respelled.quoted
    rcases bare with kind | kind <;> rw [kind] <;> rfl
  | @recased _ word isWord same =>
    apply Respelled.recased
    rw [Token.keyword?, Token.keyword?, if_pos rfl, if_pos isWord, Keyword.ofWord?,
      Keyword.ofWord?, String.toList_ofList, same]

theorem Segment.replaces_lexeme {kind : TokenKind} {value : String} {text : List Char}
    {other : Segment} (spelled : Spelled kind value text)
    (fits : ∀ {before after : List Char}, Unextended kind text after → other.Fits before after)
    {d : Char} {later : List Char} (first : other.text = d :: later)
    (word : isIdentifierPart d = true → kind = .identifier) (digit : d.isDigit = false)
    (point : d ≠ '.') : (Segment.lexeme kind value text).Replaces other := by
  obtain ⟨c, rest, present⟩ := spelled.eq_cons
  refine ⟨fun there => fits (Segment.fits_lexeme_iff.mp there).2,
    blankLineAfter_of_spelled spelled, c, rest, d, later, present, first, ?_, ?_, digit, point⟩
  · rintro rfl
    rw [present] at spelled
    cases spelled.isBlank_head
  · intro part
    cases word part
    rw [present] at spelled
    cases spelled with
    | punctuation found => cases TokenKind.isId_of_ofPunctuation? found
    | identifier start _ => exact isIdentifierPart_of_isIdentifierStart start

theorem Rewording.replaces {role : Role} {token : Token} {segment : Segment} {text : List Char}
    (rewording : Rewording role token segment) (spelled : Spelled token.kind token.text text) :
    (Segment.lexeme token.kind token.text text).Replaces segment := by
  cases rewording with
  | blank _ =>
    exact Segment.replaces_lexeme spelled (fun _ => .blank rfl) rfl
      (fun part => absurd part (by decide)) rfl (by decide)
  | arrow _ =>
    exact Segment.replaces_lexeme spelled
      (fun _ => .lexeme .arrow (unextended_of_kind (by decide) (by decide) ..)) rfl
      (fun part => absurd part (by decide)) rfl (by decide)
  | line _ =>
    exact Segment.replaces_lexeme spelled
      (fun _ => .lexeme .line (unextended_of_kind (by decide) (by decide) ..)) rfl
      (fun part => absurd part (by decide)) rfl (by decide)
  | quoted bare =>
    exact Segment.replaces_lexeme spelled
      (fun _ => .lexeme (spelled_quoted spelled bare)
        (unextended_of_kind (by decide) (by decide) ..)) rfl
      (fun part => absurd part (by decide)) rfl (by decide)
  | @recased _ word isWord same =>
    rw [isWord] at spelled
    obtain ⟨c, rest, rfl, start, parts⟩ := exists_word_of_map_toLower_eq spelled same
    rw [← isWord] at spelled
    exact Segment.replaces_lexeme spelled
      (fun alone => .lexeme (.identifier start parts)
        ⟨fun _ => alone.1 isWord, fun other => by cases other⟩) rfl
      (fun _ => isWord) (isDigit_eq_false_of_isIdentifierStart start)
      (ne_of_isIdentifierStart start (by decide))

/-- A space for a separator, and for an edge operator the other one. -/
def TokenKind.alternative? : TokenKind → Option (List Char)
  | .comma | .semicolon => some [' ']
  | .arrow => some ['-', '-']
  | .line => some ['-', '>']
  | _ => none

theorem exists_rewording_of_alternative? (role : Role) {token : Token} {text : List Char}
    (found : token.kind.alternative? = some text) :
    ∃ other, Rewording role token other ∧ other.text = text := by
  unfold TokenKind.alternative? at found
  split at found <;> cases found
  · next kind => exact ⟨_, .blank (.inl kind), rfl⟩
  · next kind => exact ⟨_, .blank (.inr kind), rfl⟩
  · next kind => exact ⟨_, .line (by rw [kind]; rfl), rfl⟩
  · next kind => exact ⟨_, .arrow (by rw [kind]; rfl), rfl⟩

/-- Another way to write a token in its role: a bare name in quotes, and a keyword in other upper
and lower case letters. -/
inductive Variant : Role → Token → List Char → Prop
  | quoted {token : Token} : token.kind = .identifier ∨ token.kind = .numeral →
      Variant .name token ('"' :: token.text.toList ++ ['"'])
  | recased {token : Token} {word : List Char} : token.kind = .identifier →
      word.map Char.toLower = token.text.toList.map Char.toLower → Variant .keyword token word

theorem Variant.exists_rewording {role : Role} {token : Token} {text : List Char}
    (variant : Variant role token text) :
    ∃ other, Rewording role token other ∧ other.text = text := by
  cases variant with
  | quoted bare => exact ⟨_, .quoted bare, rfl⟩
  | recased isWord same => exact ⟨_, .recased isWord same, rfl⟩

/-! ### Texts with some lexemes written in another way -/

/-- The text of segments from an offset on, with what is written for some of their tokens. -/
def Segment.edited (edit : Token → Option (List Char)) (offset : Nat) : List Segment → List Char
  | [] => []
  | .trivia text :: later => text ++ edited edit (offset + text.length) later
  | .lexeme kind value text :: later =>
    (edit ⟨kind, value, offset⟩).getD text ++ edited edit (offset + text.length) later

/-- A text with something else written for the lexemes of some of its tokens, as far as it can be
cut. -/
def edited (edit : Token → Option (List Char)) (source : String) : String :=
  String.ofList (Segment.edited edit 0 (scan true source.toList).segments)

/-- What is written for some tokens makes segments that replace theirs, with tokens that may stand
for all of them. -/
theorem exists_replaced {edit : Token → Option (List Char)} {offset : Nat}
    {segments : List Segment} {roles : List (Role × Token)}
    (split : roles.map Prod.snd = Segment.tokens offset segments)
    (spelled : ∀ kind value text, .lexeme kind value text ∈ segments → Spelled kind value text)
    (allowed : ∀ role token text, (role, token) ∈ roles → edit token = some text →
      ∃ other, Rewording role token other ∧ other.text = text) :
    ∃ others, others.flatMap Segment.text = Segment.edited edit offset segments ∧
      Replaced segments others ∧ ∀ place, Respells roles (Segment.tokens place others) := by
  induction segments generalizing offset roles with
  | nil =>
    obtain rfl : roles = [] := List.map_eq_nil_iff.mp split
    exact ⟨[], rfl, .nil, fun _ => .nil⟩
  | cons segment segments ih =>
    have later := fun kind value text inside =>
      spelled kind value text (List.mem_cons_of_mem segment inside)
    cases segment with
    | trivia text =>
      obtain ⟨others, whole, replaced, respells⟩ := ih split later allowed
      refine ⟨.trivia text :: others, ?_, .keep replaced, fun place => respells _⟩
      rw [List.flatMap_cons, whole]
      rfl
    | lexeme kind value text =>
      obtain ⟨⟨role, token⟩, roles, rfl, rfl, tokens⟩ := List.map_eq_cons_iff.mp split
      obtain ⟨others, whole, replaced, respells⟩ := ih tokens later
        fun role' token' text' inside => allowed role' token' text' (List.mem_cons_of_mem _ inside)
      cases written : edit ⟨kind, value, offset⟩ with
      | none =>
        refine ⟨.lexeme kind value text :: others, ?_, .keep replaced, fun place =>
          .cons (.same place) (respells _)⟩
        rw [List.flatMap_cons, whole, Segment.edited, written]
        rfl
      | some text' =>
        obtain ⟨other, rewording, rfl⟩ := allowed role _ text' List.mem_cons_self written
        have here := spelled kind value text List.mem_cons_self
        refine ⟨other :: others, ?_, .change (rewording.replaces here) replaced, fun place => ?_⟩
        · rw [List.flatMap_cons, whole, Segment.edited, written]
          rfl
        · change Respells _ (Segment.tokens place ([other] ++ others))
          rw [Segment.tokens_append]
          exact .cons (rewording.respelled place) (respells _)

/-- A word as a name. -/
def NameTree.ofWord (text : String) (offset : Nat) : NameTree :=
  ⟨⟨⟨.identifier, text, offset⟩, rfl⟩, [], .inr rfl⟩

namespace GraphDecl

/-- What may be written for the tokens of declarations leaves the declarations as they are. -/
theorem parse_edited {source : String} {trees : List DeclTree}
    (whole : (scan true source.toList).failure? = none)
    (derived : trees.flatMap DeclTree.tokens = frontTokens source)
    {edit : Token → Option (List Char)}
    (allowed : ∀ role token text, (role, token) ∈ trees.flatMap DeclTree.roles →
      edit token = some text → ∃ other, Rewording role token other ∧ other.text = text) :
    parse (edited edit source) = .ok (trees.map DeclTree.decl) := by
  have split : (trees.flatMap DeclTree.roles).map Prod.snd = frontTokens source := by
    rw [← derived, List.map_flatMap]
    simp only [DeclTree.map_snd_roles]
  obtain ⟨others, text, replaced, respells⟩ :=
    exists_replaced split (fun _ _ _ inside => (tiles_scan whole).spelled inside) allowed
  have fitting : Fitting [] others [] := replaced.fitting (fitting_scan rfl whole)
  have cut : scan true (edited edit source).toList = ⟨others, none⟩ := by
    rw [edited, String.toList_ofList, ← text]
    exact scan_of_fitting fitting
  have derives := derives_of_respells (respells 0)
  refine parse_eq_ok_iff.mpr ⟨by rw [cut], ?_⟩
  rwa [frontTokens, cut]

/-- Separators and edge operators mean nothing: with spaces for any of the commas and semicolons of
a text and the other operator for any of its edge operators, the same declarations are read. -/
theorem parse_alternative {source : String} {decls : List GraphDecl}
    (accepted : parse source = .ok decls) (chosen : Token → Bool) :
    parse (edited (fun token => if chosen token then token.kind.alternative? else none) source) =
      .ok decls := by
  obtain ⟨whole, trees, derived, rfl⟩ := parse_eq_ok_iff.mp accepted
  apply parse_edited whole derived
  intro role token text _ written
  split at written
  · exact exists_rewording_of_alternative? role written
  · cases written

/-- All of them in a text whose statements they hold apart. -/
theorem parse_alternative_all :
    parse "graph\x7ba->b;c[d=e,]\x7d" =
        .ok [⟨.graph, false, none,
          [.edge [⟨"a", none⟩, ⟨"b", none⟩] [], .node ⟨"c", none⟩ [.pair "d" "e"]]⟩] ∧
      parse "graph\x7ba--b c[d=e ]\x7d" =
        .ok [⟨.graph, false, none,
          [.edge [⟨"a", none⟩, ⟨"b", none⟩] [], .node ⟨"c", none⟩ [.pair "d" "e"]]⟩] := by
  have cut : scan true "graph\x7ba->b;c[d=e,]\x7d".toList =
      ⟨[.lexeme .identifier "graph" ['g', 'r', 'a', 'p', 'h'], .lexeme .leftBrace "\x7b" ['\x7b'],
        .lexeme .identifier "a" ['a'], .lexeme .arrow "->" ['-', '>'],
        .lexeme .identifier "b" ['b'], .lexeme .semicolon ";" [';'],
        .lexeme .identifier "c" ['c'], .lexeme .leftBracket "[" ['['],
        .lexeme .identifier "d" ['d'], .lexeme .equals "=" ['='], .lexeme .identifier "e" ['e'],
        .lexeme .comma "," [','], .lexeme .rightBracket "]" [']'],
        .lexeme .rightBrace "\x7d" ['\x7d']], none⟩ := by
    cbv
  have accepted : parse "graph\x7ba->b;c[d=e,]\x7d" =
      .ok [⟨.graph, false, none,
        [.edge [⟨"a", none⟩, ⟨"b", none⟩] [], .node ⟨"c", none⟩ [.pair "d" "e"]]⟩] := by
    refine parse_eq_ok_iff.mpr ⟨by rw [cut], ?_⟩
    rw [frontTokens, cut]
    exact ⟨[⟨none, .graph, ⟨⟨.identifier, "graph", 0⟩, by decide⟩, none,
      ⟨⟨.leftBrace, "\x7b", 5⟩, rfl⟩,
      .cons (.simple (.named (.edge ⟨.ofWord "a" 6, none⟩
          ⟨⟨⟨.arrow, "->", 7⟩, rfl⟩, ⟨.ofWord "b" 9, none⟩, by decide⟩ [] [])
          (NameTree.free_of_none (by decide))))
        (some ⟨⟨.semicolon, ";", 10⟩, rfl⟩)
      (.cons (.simple (.named (.node ⟨.ofWord "c" 11, none⟩
          [⟨⟨⟨.leftBracket, "[", 12⟩, rfl⟩,
            [⟨.ofWord "d" 13, ⟨⟨.equals, "=", 14⟩, rfl⟩, .ofWord "e" 15,
              some ⟨⟨.comma, ",", 16⟩, rfl⟩⟩],
            ⟨⟨.rightBracket, "]", 17⟩, rfl⟩⟩])
          (NameTree.free_of_none (by decide)))) none .nil),
      ⟨⟨.rightBrace, "\x7d", 18⟩, rfl⟩⟩], rfl, rfl⟩
  have written := parse_alternative accepted fun _ => true
  rw [edited, cut] at written
  exact ⟨accepted, written⟩

/-- A text that is read has one tree for each declaration, which tell the roles of its tokens. With
any of the words and numerals that are read as names in quotes, and any of the words that are read
as keywords in other upper and lower case letters, the same declarations are read. -/
theorem parse_variant {source : String} {decls : List GraphDecl}
    (accepted : parse source = .ok decls) :
    ∃ trees : List DeclTree, trees.map DeclTree.decl = decls ∧
      (∀ others : List DeclTree, others.flatMap DeclTree.tokens = frontTokens source ↔
        others = trees) ∧
      ∀ edit : Token → Option (List Char),
        (∀ role token text, (role, token) ∈ trees.flatMap DeclTree.roles →
          edit token = some text → Variant role token text) →
        parse (edited edit source) = .ok decls := by
  obtain ⟨whole, trees, derived, rfl⟩ := parse_eq_ok_iff.mp accepted
  refine ⟨trees, rfl, fun others => ⟨fun same => ?_, ?_⟩, fun edit allowed => ?_⟩
  · have ended : Reader.nextKind [] = .endOfInput := rfl
    exact (Reader.reads_declarations.unique others trees ended ended
      (congrArg (· ++ []) (same.trans derived.symm))).1
  · rintro rfl
    exact derived
  · apply parse_edited whole derived
    intro role token text inside written
    exact (allowed role token text inside written).exists_rewording

/-- A keyword in capitals, and the same word and another one as names in quotes. -/
theorem parse_variant_keyword :
    parse "graph Graph\x7ba=b\x7d" =
        .ok [⟨.graph, false, some "Graph", [.attr .graph [.pair "a" "b"]]⟩] ∧
      parse "GRAPH \"Graph\"\x7ba=\"b\"\x7d" =
        .ok [⟨.graph, false, some "Graph", [.attr .graph [.pair "a" "b"]]⟩] := by
  have cut : scan true "graph Graph\x7ba=b\x7d".toList =
      ⟨[.lexeme .identifier "graph" ['g', 'r', 'a', 'p', 'h'], .trivia [' '],
        .lexeme .identifier "Graph" ['G', 'r', 'a', 'p', 'h'], .lexeme .leftBrace "\x7b" ['\x7b'],
        .lexeme .identifier "a" ['a'], .lexeme .equals "=" ['='], .lexeme .identifier "b" ['b'],
        .lexeme .rightBrace "\x7d" ['\x7d']], none⟩ := by
    cbv
  obtain ⟨tree, tokens, roles, decl⟩ : ∃ tree : DeclTree,
      [tree].flatMap DeclTree.tokens = frontTokens "graph Graph\x7ba=b\x7d" ∧
        [tree].flatMap DeclTree.roles =
          [(.keyword, ⟨.identifier, "graph", 0⟩), (.name, ⟨.identifier, "Graph", 6⟩),
            (.mark, ⟨.leftBrace, "\x7b", 11⟩), (.name, ⟨.identifier, "a", 12⟩),
            (.mark, ⟨.equals, "=", 13⟩), (.name, ⟨.identifier, "b", 14⟩),
            (.mark, ⟨.rightBrace, "\x7d", 15⟩)] ∧
        [tree].map DeclTree.decl =
          [⟨.graph, false, some "Graph", [.attr .graph [.pair "a" "b"]]⟩] := by
    rw [frontTokens, cut]
    exact ⟨⟨none, .graph, ⟨⟨.identifier, "graph", 0⟩, by decide⟩, some (.ofWord "Graph" 6),
      ⟨⟨.leftBrace, "\x7b", 11⟩, rfl⟩,
      .cons (.simple (.named (.assignment (.ofWord "a" 12) ⟨⟨.equals, "=", 13⟩, rfl⟩
        (.ofWord "b" 14)) (NameTree.free_of_none (by decide)))) none .nil,
      ⟨⟨.rightBrace, "\x7d", 15⟩, rfl⟩⟩, rfl, rfl, rfl⟩
  have accepted : parse "graph Graph\x7ba=b\x7d" =
      .ok [⟨.graph, false, some "Graph", [.attr .graph [.pair "a" "b"]]⟩] :=
    parse_eq_ok_iff.mpr ⟨by rw [cut], [tree], tokens, decl⟩
  obtain ⟨trees, -, unique, written⟩ := parse_variant accepted
  obtain rfl := (unique [tree]).mp tokens
  have others := written (fun token =>
    if token.offset = 0 then some ['G', 'R', 'A', 'P', 'H']
    else if token.offset = 6 ∨ token.offset = 14 then some ('"' :: token.text.toList ++ ['"'])
    else none) (by
      intro role token text inside found
      rw [roles] at inside
      simp only [List.mem_cons, Prod.mk.injEq, List.not_mem_nil, or_false] at inside
      rcases inside with ⟨rfl, rfl⟩ | ⟨rfl, rfl⟩ | ⟨rfl, rfl⟩ | ⟨rfl, rfl⟩ | ⟨rfl, rfl⟩ |
        ⟨rfl, rfl⟩ | ⟨rfl, rfl⟩ <;> cases found
      · exact .recased rfl rfl
      all_goals exact .quoted (.inl rfl))
  rw [edited, cut] at others
  exact ⟨accepted, others⟩

end GraphDecl

end DotGraph
