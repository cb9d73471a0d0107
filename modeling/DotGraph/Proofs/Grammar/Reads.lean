import DotGraph.Proofs.Grammar.Tree
import DotGraph.Reader.Repeat

/-!
# Readers of trees

A reader reads the trees of a kind if it takes the tokens of a tree, and only those, where the kind
of the next token cannot continue the tree. The composed readers read composed trees, and the trees
are determined by their tokens.
-/

namespace DotGraph.Reader

variable {α β X Y : Type}

/-- What a reader reads: trees, their tokens, what they mean, and which kinds of token may follow.
Two ways to read a front of the same tokens are one. -/
structure Reads (reader : Reader α) (tokens : X → List Token) (value : X → α)
    (follow : TokenKind → Prop) : Prop where
  complete : ∀ (tree : X) {rest : List Token}, follow (nextKind rest) →
    reader.run (tokens tree ++ rest) = .ok (value tree, rest)
  sound : ∀ {input rest : List Token} {result : α}, reader.run input = .ok (result, rest) →
    ∃ tree, input = tokens tree ++ rest ∧ value tree = result
  unique : ∀ (tree other : X) {rest rest' : List Token}, follow (nextKind rest) →
    follow (nextKind rest') → tokens tree ++ rest = tokens other ++ rest' →
    tree = other ∧ rest = rest'

theorem run_bind_eq_ok {reader : Reader α} {next : α → Reader β} {input rest : List Token}
    {result : β} (h : (reader >>= next).run input = .ok (result, rest)) :
    ∃ value middle, reader.run input = .ok (value, middle) ∧
      (next value).run middle = .ok (result, rest) := by
  cases found : reader.run input with
  | error rejection => rw [run_bind_of_error found] at h; cases h
  | ok first => exact ⟨first.1, first.2, rfl, by rwa [run_bind_of_ok found] at h⟩

theorem run_inspect_bind {γ : Type} (view : List Token → γ) (next : γ → Reader α)
    (input : List Token) : (inspect view >>= next).run input = (next (view input)).run input := rfl

theorem Reads.mono {reader : Reader α} {tokens : X → List Token} {value : X → α}
    {follow narrower : TokenKind → Prop} (reads : Reads reader tokens value follow)
    (le : ∀ kind, narrower kind → follow kind) : Reads reader tokens value narrower where
  complete tree _ fits := reads.complete tree (le _ fits)
  sound := reads.sound
  unique _ _ _ _ fits fits' := reads.unique _ _ (le _ fits) (le _ fits')

/-- Trees of another type, which stand for the same tokens and values. -/
theorem Reads.relabel {reader : Reader α} {tokens : X → List Token} {value : X → α}
    {follow : TokenKind → Prop} (reads : Reads reader tokens value follow)
    {tokens' : Y → List Token} {value' : Y → α} (there : Y → X) (back : X → Y)
    (left : ∀ tree, back (there tree) = tree) (right : ∀ tree, there (back tree) = tree)
    (same : ∀ tree, tokens' tree = tokens (there tree))
    (means : ∀ tree, value' tree = value (there tree)) : Reads reader tokens' value' follow where
  complete tree _ fits := by
    rw [same, means]
    exact reads.complete (there tree) fits
  sound found := by
    obtain ⟨tree, front, meant⟩ := reads.sound found
    exact ⟨back tree, by rw [same, right, front], by rw [means, right, meant]⟩
  unique tree other _ _ fits fits' equal := by
    rw [same, same] at equal
    obtain ⟨trees, rests⟩ := reads.unique _ _ fits fits' equal
    exact ⟨by rw [← left tree, trees, left], rests⟩

theorem reads_pure (value : α) (follow : TokenKind → Prop) :
    Reads (pure value) (fun _ : Unit => []) (fun _ => value) follow where
  complete _ _ _ := rfl
  sound found := by
    cases found
    exact ⟨(), rfl, rfl⟩
  unique _ _ _ _ _ _ equal := ⟨rfl, equal⟩

theorem reads_reject (reason : Reason) (follow : TokenKind → Prop) :
    Reads (reject reason : Reader α) (fun tree : Empty => tree.elim) (fun tree => tree.elim)
      follow where
  complete tree := tree.elim
  sound found := by cases found
  unique tree := tree.elim

/-- One token, as what it is wanted for. -/
theorem reads_accept {wanted : Token → Option α} {reason : Reason} {token : X → Token}
    {value : X → α} (wants : ∀ tree, wanted (token tree) = some (value tree))
    (found : ∀ {next result}, wanted next = some result →
      ∃ tree, token tree = next ∧ value tree = result)
    (injective : ∀ {tree other}, token tree = token other → tree = other) :
    Reads (accept wanted reason) (fun tree => [token tree]) value fun _ => True where
  complete tree rest _ := by simp [accept, wants]
  sound {input rest result} taken := by
    cases input with
    | nil => cases taken
    | cons next input =>
      simp only [accept] at taken
      split at taken <;> cases taken
      obtain ⟨tree, same, means⟩ := found (by assumption)
      exact ⟨tree, by rw [same, List.singleton_append], means⟩
  unique _ _ _ _ _ _ equal := by
    obtain ⟨first, rests⟩ := List.cons.inj equal
    exact ⟨injective first, rests⟩

/-- One token that has a property. -/
theorem reads_accept_if (p : Token → Prop) [DecidablePred p] (value : Token → α) (reason : Reason) :
    Reads (accept (fun token => if p token then some (value token) else none) reason)
      (fun token : { token : Token // p token } => [token.1]) (fun token => value token.1)
      fun _ => True :=
  reads_accept (fun token => if_pos token.2)
    (fun {next _} h => by
      split at h
      · next fits => exact ⟨⟨next, fits⟩, rfl, Option.some.inj h⟩
      · cases h)
    Subtype.ext

theorem reads_expect (kind : TokenKind) :
    Reads (expect kind) (fun mark : Mark kind => [mark.1]) (fun _ => ()) fun _ => True :=
  reads_accept_if (fun token => token.kind = kind) (fun _ => ()) _

/-- A keyword, as what it stands for. -/
theorem reads_keyword {of? : Keyword → Option α} {spell : α → Keyword}
    (spells : ∀ {keyword meaning}, of? keyword = some meaning ↔ keyword = spell meaning)
    (reason : Reason) :
    Reads (accept (fun token => token.keyword?.bind of?) reason)
      (fun mark : (meaning : α) × KeywordMark (spell meaning) => [mark.2.1]) Sigma.fst
      fun _ => True := by
  refine reads_accept (fun mark => ?_) (fun {next meaning} h => ?_) (fun {mark other} same => ?_)
  · rw [mark.2.2]
    exact spells.mpr rfl
  · obtain ⟨keyword, spelled, means⟩ := Option.bind_eq_some_iff.mp h
    obtain rfl := spells.mp means
    exact ⟨⟨meaning, next, spelled⟩, rfl, rfl⟩
  · obtain ⟨meaning, token, spelled⟩ := mark
    obtain ⟨meaning', token', spelled'⟩ := other
    dsimp only at same
    subst same
    have keywords : spell meaning = spell meaning' :=
      Option.some.inj (spelled.symm.trans spelled')
    obtain rfl : meaning = meaning' :=
      Option.some.inj ((spells.mpr rfl).symm.trans (spells.mpr keywords))
    rfl

theorem reads_skip (unwanted : TokenKind → Bool) :
    Reads (skip unwanted)
      (fun mark : Option { token : Token // unwanted token.kind = true } =>
        (mark.map Subtype.val).toList)
      (fun _ => ()) fun kind => unwanted kind = false where
  complete mark rest fits := by
    cases mark with
    | some mark => simp [skip, mark.2]
    | none =>
      cases rest with
      | nil => rfl
      | cons token rest => simp [skip, show unwanted token.kind = false from fits]
  sound {input rest result} taken := by
    cases input with
    | nil => cases taken; exact ⟨none, rfl, rfl⟩
    | cons token input =>
      simp only [skip, Except.ok.injEq, Prod.mk.injEq, true_and] at taken
      subst taken
      by_cases skipped : unwanted token.kind = true
      · exact ⟨some ⟨token, skipped⟩, by simp [skipped], rfl⟩
      · exact ⟨none, by simp [skipped], rfl⟩
  unique mark other _ _ fits fits' equal := by
    cases mark with
    | some mark =>
      cases other with
      | some other =>
        obtain ⟨same, rests⟩ := List.cons.inj equal
        exact ⟨congrArg some (Subtype.ext same), rests⟩
      | none =>
        subst equal
        exact absurd mark.2 (by simpa [nextKind] using fits')
    | none =>
      cases other with
      | some other =>
        subst equal
        exact absurd other.2 (by simpa [nextKind] using fits)
      | none => exact ⟨rfl, equal⟩

/-- One tree after another. What follows the first one is what the second one begins with. -/
theorem Reads.bind {reader : Reader α} {next : α → Reader β} {tokens : X → List Token}
    {value : X → α} {follow : TokenKind → Prop} (reads : Reads reader tokens value follow)
    {tokens' : Y → List Token} {value' : α → Y → β} {follow' : TokenKind → Prop}
    (after : ∀ result, Reads (next result) tokens' (value' result) follow')
    (meets : ∀ (tree : Y) {rest}, follow' (nextKind rest) →
      follow (nextKind (tokens' tree ++ rest))) :
    Reads (reader >>= next) (fun trees : X × Y => tokens trees.1 ++ tokens' trees.2)
      (fun trees => value' (value trees.1) trees.2) follow' where
  complete trees rest fits := by
    rw [List.append_assoc, run_bind_of_ok (reads.complete trees.1 (meets trees.2 fits))]
    exact (after _).complete trees.2 fits
  sound found := by
    obtain ⟨result, middle, first, second⟩ := run_bind_eq_ok found
    obtain ⟨tree, rfl, rfl⟩ := reads.sound first
    obtain ⟨tree', rfl, means⟩ := (after _).sound second
    exact ⟨(tree, tree'), (List.append_assoc ..).symm, means⟩
  unique trees others _ _ fits fits' equal := by
    rw [List.append_assoc, List.append_assoc] at equal
    obtain ⟨first, same⟩ := reads.unique _ _ (meets _ fits) (meets _ fits') equal
    obtain ⟨second, rests⟩ := (after (value trees.1)).unique _ _ fits fits' same
    exact ⟨Prod.ext first second, rests⟩

/-- One of two kinds of tree, as the tokens that are left tell. Of each kind there are only those
trees that look like one of it. -/
theorem Reads.choice {γ : Type} (view : List Token → γ) (p : γ → Prop) [DecidablePred p]
    {yes no : Reader α} {tokens : X → List Token} {value : X → α} {tokens' : Y → List Token}
    {value' : Y → α} {follow : TokenKind → Prop} (first : X → Prop) (second : Y → Prop)
    (reads : Reads yes tokens value follow) (reads' : Reads no tokens' value' follow)
    (holds : ∀ {tree rest}, first tree → follow (nextKind rest) → p (view (tokens tree ++ rest)))
    (fails : ∀ {tree rest}, second tree → follow (nextKind rest) →
      ¬ p (view (tokens' tree ++ rest)))
    (onlyFirst : ∀ {tree rest}, p (view (tokens tree ++ rest)) → first tree)
    (onlySecond : ∀ {tree rest}, ¬ p (view (tokens' tree ++ rest)) → second tree) :
    Reads (inspect view >>= fun seen => if p seen then yes else no)
      (Sum.elim (fun tree : { tree : X // first tree } => tokens tree.1)
        fun tree : { tree : Y // second tree } => tokens' tree.1)
      (Sum.elim (fun tree => value tree.1) fun tree => value' tree.1) follow where
  complete tree rest fits := by
    rw [run_inspect_bind]
    cases tree with
    | inl tree =>
      change (if p (view (tokens tree.1 ++ rest)) then yes else no).run _ = _
      rw [if_pos (holds tree.2 fits)]
      exact reads.complete tree.1 fits
    | inr tree =>
      change (if p (view (tokens' tree.1 ++ rest)) then yes else no).run _ = _
      rw [if_neg (fails tree.2 fits)]
      exact reads'.complete tree.1 fits
  sound {input rest result} found := by
    rw [run_inspect_bind] at found
    by_cases seen : p (view input)
    · rw [if_pos seen] at found
      obtain ⟨tree, rfl, means⟩ := reads.sound found
      exact ⟨.inl ⟨tree, onlyFirst seen⟩, rfl, means⟩
    · rw [if_neg seen] at found
      obtain ⟨tree, rfl, means⟩ := reads'.sound found
      exact ⟨.inr ⟨tree, onlySecond seen⟩, rfl, means⟩
  unique tree other _ _ fits fits' equal := by
    have apart (tree : { tree : X // first tree }) (other : { tree : Y // second tree })
        {rest rest' : List Token} (fits : follow (nextKind rest))
        (fits' : follow (nextKind rest')) : tokens tree.1 ++ rest ≠ tokens' other.1 ++ rest' := by
      intro equal
      apply fails other.2 fits'
      rw [← equal]
      exact holds tree.2 fits
    cases tree with
    | inl tree =>
      cases other with
      | inl other =>
        obtain ⟨same, rests⟩ := reads.unique _ _ fits fits' equal
        exact ⟨congrArg Sum.inl (Subtype.ext same), rests⟩
      | inr other => exact absurd equal (apart tree other fits fits')
    | inr tree =>
      cases other with
      | inl other => exact absurd equal.symm (apart other tree fits' fits)
      | inr other =>
        obtain ⟨same, rests⟩ := reads'.unique _ _ fits fits' equal
        exact ⟨congrArg Sum.inr (Subtype.ext same), rests⟩

/-- One of two kinds of tree, if the tokens that are left tell of which. -/
theorem Reads.either {γ : Type} (view : List Token → γ) (p : γ → Prop) [DecidablePred p]
    {yes no : Reader α} {tokens : X → List Token} {value : X → α} {tokens' : Y → List Token}
    {value' : Y → α} {follow : TokenKind → Prop}
    (reads : Reads yes tokens value follow) (reads' : Reads no tokens' value' follow)
    (holds : ∀ tree {rest}, follow (nextKind rest) → p (view (tokens tree ++ rest)))
    (fails : ∀ tree {rest}, follow (nextKind rest) → ¬ p (view (tokens' tree ++ rest))) :
    Reads (inspect view >>= fun seen => if p seen then yes else no) (Sum.elim tokens tokens')
      (Sum.elim value value') follow := by
  have chosen := Reads.choice view p (fun _ => True) (fun _ => True) reads reads'
    (fun _ fits => holds _ fits) (fun _ fits => fails _ fits) (fun _ => trivial) (fun _ => trivial)
  apply chosen.relabel (Sum.map (fun tree => ⟨tree, trivial⟩) fun tree => ⟨tree, trivial⟩)
    (Sum.map Subtype.val Subtype.val)
  all_goals
    rintro (_ | _) <;> rfl

/-- A tree, if the kind of the next token begins one. -/
theorem Reads.optional {reader : Reader α} {tokens : X → List Token} {value : X → α}
    {follow : TokenKind → Prop} (reads : Reads reader tokens value follow)
    (p : TokenKind → Prop) [DecidablePred p] (default : α)
    (begins : ∀ (tree : X) (rest : List Token), p (nextKind (tokens tree ++ rest))) :
    Reads (inspect nextKind >>= fun kind => if p kind then reader else pure default)
      (fun tree : Option X => tree.elim [] tokens) (fun tree => tree.elim default value)
      fun kind => follow kind ∧ ¬ p kind := by
  have present := reads.mono fun kind (fits : follow kind ∧ ¬ p kind) => fits.1
  have absent := reads_pure default fun kind => follow kind ∧ ¬ p kind
  have chosen := Reads.either nextKind p present absent (fun tree _ _ => begins tree _)
    fun _ _ fits => fits.2
  apply chosen.relabel (fun tree => tree.elim (.inr ()) .inl) (Sum.elim some fun _ => none)
  all_goals
    rintro (_ | _) <;> rfl

/-- Each of several trees may be followed by the ones after it. -/
theorem follow_flatMap {tokens : X → List Token} {follow : TokenKind → Prop}
    (meets : ∀ (tree : X) (rest : List Token), follow (nextKind (tokens tree ++ rest)))
    (trees : List X) {rest : List Token} (fits : follow (nextKind rest)) :
    follow (nextKind (trees.flatMap tokens ++ rest)) := by
  cases trees with
  | nil => exact fits
  | cons tree trees =>
    rw [List.flatMap_cons, List.append_assoc]
    exact meets tree _

/-- Trees one after another, as long as the next token begins one. -/
theorem Reads.repeatWhile {reader : Reader α} {tokens : X → List Token} {value : X → α}
    {follow : TokenKind → Prop} (reads : Reads reader tokens value follow)
    (goOn : TokenKind → Bool) (takes : reader.Takes 1)
    (begins : ∀ (tree : X) (rest : List Token), goOn (nextKind (tokens tree ++ rest)) = true)
    (meets : ∀ (tree : X) (rest : List Token), follow (nextKind (tokens tree ++ rest))) :
    Reads (Reader.repeatWhile goOn reader takes) (fun trees : List X => trees.flatMap tokens)
      (fun trees => trees.map value) fun kind => follow kind ∧ goOn kind = false where
  complete trees rest fits := by
    induction trees with
    | nil =>
      rw [repeatWhile_eq, run_inspect_bind, if_neg (by simp [fits.2])]
      rfl
    | cons tree trees ih =>
      rw [repeatWhile_eq, run_inspect_bind, List.flatMap_cons, List.append_assoc,
        if_pos (begins tree _),
        run_bind_of_ok (reads.complete tree (follow_flatMap meets trees fits.1)),
        run_bind_of_ok ih]
      rfl
  sound {input rest results} found := by
    change runWhile goOn reader takes input = _ at found
    fun_induction runWhile goOn reader takes input generalizing rest results with
    | case1 => cases found
    | case2 => cases found
    | case3 input more result middle first results' last others ih =>
      cases found
      obtain ⟨tree, rfl, rfl⟩ := reads.sound first
      obtain ⟨trees, rfl, rfl⟩ := ih others
      exact ⟨tree :: trees, by rw [List.flatMap_cons, List.append_assoc], rfl⟩
    | case4 =>
      cases found
      exact ⟨[], rfl, rfl⟩
  unique trees others _ _ fits fits' equal := by
    have more (tree : X) (trees : List X) {rest rest' : List Token}
        (stops : goOn (nextKind rest') = false) :
        (tree :: trees).flatMap tokens ++ rest ≠ rest' := by
      rintro rfl
      rw [List.flatMap_cons, List.append_assoc, begins] at stops
      cases stops
    induction trees generalizing others with
    | nil =>
      cases others with
      | nil => exact ⟨rfl, equal⟩
      | cons other others => exact absurd equal.symm (more other others fits.2)
    | cons tree trees ih =>
      cases others with
      | nil => exact absurd equal (more tree trees fits'.2)
      | cons other others =>
        rw [List.flatMap_cons, List.flatMap_cons, List.append_assoc, List.append_assoc] at equal
        obtain ⟨first, same⟩ := reads.unique _ _ (follow_flatMap meets trees fits.1)
          (follow_flatMap meets others fits'.1) equal
        obtain ⟨later, rests⟩ := ih _ same
        exact ⟨by rw [first, later], rests⟩

theorem stops_of_run_repeatWhile {reader : Reader α} {goOn : TokenKind → Bool}
    {takes : reader.Takes 1} {input rest : List Token} {results : List α}
    (found : (Reader.repeatWhile goOn reader takes).run input = .ok (results, rest)) :
    goOn (nextKind rest) = false := by
  change runWhile goOn reader takes input = _ at found
  fun_induction runWhile goOn reader takes input generalizing rest results with
  | case1 => cases found
  | case2 => cases found
  | case3 input more result middle first results' last others ih =>
    cases found
    exact ih others
  | case4 input stops =>
    cases found
    simpa using stops

end DotGraph.Reader
