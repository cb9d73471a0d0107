import DotGraph.Proofs.Grammar.Declarations
import DotGraph.Proofs.Relabel
import DotGraph.Proofs.Rendering

/-!
# Reading what was written

Declarations that are written are read back as they are (`GraphDecl.parse_print`). The grammar
derives them from the tokens that are written, which are the tokens that are cut from the text.
-/

namespace DotGraph

/-- A text that can be written as a string. -/
def isQuotable (text : String) : Bool := Token.isPaired text.toList

def AttrItem.isWritable : AttrItem → Bool
  | .pair key value => isQuotable key && isQuotable value
  | .foreign => false

/-- An empty port would be read as none. -/
def NodeRef.isWritable (ref : NodeRef) : Bool :=
  isQuotable ref.id && ref.port.all fun port => port != "" && isQuotable port

mutual

/-- A statement that can stand in a body, and whose texts can be written as strings. -/
def Statement.isWritable : Statement → Bool
  | .subgraph id children => id.all isQuotable && Statement.areWritable children
  | .node ref items => ref.isWritable && items.all AttrItem.isWritable
  | .edge chain items =>
    decide (2 ≤ chain.length) && chain.all NodeRef.isWritable && items.all AttrItem.isWritable
  | .attr _ items => items.all AttrItem.isWritable
  | .graph .. | .foreign _ => false

def Statement.areWritable : List Statement → Bool
  | [] => true
  | statement :: statements => statement.isWritable && Statement.areWritable statements

end

def GraphDecl.isWritable (decl : GraphDecl) : Bool :=
  decl.id.all isQuotable && Statement.areWritable decl.children

namespace Spelling

/-! ### Trees of what is written -/

/-- A token at no place in particular. -/
def place (token : TokenKind × String) : Token := ⟨token.1, token.2, 0⟩

def mark (kind : TokenKind) (text : String) : Mark kind := ⟨place (kind, text), rfl⟩

def keywordMark (keyword : Keyword) : KeywordMark keyword :=
  ⟨place (.identifier, keyword.name), keyword.ofWord?_name⟩

def nameTree (text : String) : NameTree := ⟨⟨place (.string, text), rfl⟩, [], .inl rfl⟩

theorem text_nameTree (text : String) : (nameTree text).text = text := String.append_empty

def portTree (port : Option String) : PortTree :=
  port.map fun text => ((mark .colon ":", nameTree text), none)

def refTree (ref : NodeRef) : RefTree := ⟨nameTree ref.id, portTree ref.port⟩

theorem tokens_refTree (ref : NodeRef) : (refTree ref).tokens = (ofRef ref).map place := by
  obtain ⟨id, _ | port⟩ := ref <;> rfl

theorem value_refTree {ref : NodeRef} (writable : ref.isWritable = true) :
    (refTree ref).value = ref := by
  obtain ⟨id, _ | port⟩ := ref
  · exact congrArg (NodeRef.mk · none) (text_nameTree id)
  · simp only [NodeRef.isWritable, Option.all_some, Bool.and_eq_true, bne_iff_ne] at writable
    have text : PortTree.text? (portTree (some port)) = some port := by
      change (if (nameTree port).text = "" then none else some (nameTree port).text) = some port
      rw [text_nameTree, if_neg writable.2.1]
    exact congr (congrArg NodeRef.mk (text_nameTree id)) text

def pairTree (key value : String) : PairTree :=
  ⟨nameTree key, mark .equals "=", nameTree value, none⟩

def itemTrees : AttrItem → List PairTree
  | .pair key value => [pairTree key value]
  | .foreign => []

def listTree (items : List AttrItem) : ListTree :=
  ⟨mark .leftBracket "[", items.flatMap itemTrees, mark .rightBracket "]"⟩

theorem tokens_listTree (items : List AttrItem) :
    (listTree items).tokens = (ofItems items).map place := by
  have pairs : (items.flatMap itemTrees).flatMap PairTree.tokens =
      (items.flatMap ofItem).map place := by
    induction items with
    | nil => rfl
    | cons item items ih =>
      rw [List.flatMap_cons, List.flatMap_append, ih, List.flatMap_cons, List.map_append]
      cases item <;> rfl
  rw [ListTree.tokens, listTree, pairs, ofItems, List.cons_append, List.map_cons, List.map_append]
  rfl

theorem items_listTree {items : List AttrItem} (writable : items.all AttrItem.isWritable = true) :
    (listTree items).items = items := by
  change (items.flatMap itemTrees).map PairTree.item = items
  induction items with
  | nil => rfl
  | cons item items ih =>
    rw [List.all_cons, Bool.and_eq_true] at writable
    rw [List.flatMap_cons, List.map_append, ih writable.2]
    cases item with
    | pair key value =>
      exact congrArg (· :: items) (congr (congrArg AttrItem.pair (text_nameTree key))
        (text_nameTree value))
    | foreign => cases writable.1

def linkTree (ref : NodeRef) : LinkTree :=
  ⟨⟨place (.arrow, "->"), rfl⟩, refTree ref, nofun⟩

theorem values_linkTrees {refs : List NodeRef} (writable : refs.all NodeRef.isWritable = true) :
    (refs.map linkTree).map LinkTree.value = refs := by
  have same : refs.map (LinkTree.value ∘ linkTree) = refs.map id :=
    List.map_congr_left fun ref inside => value_refTree (List.all_eq_true.mp writable ref inside)
  rw [List.map_map, same, List.map_id]

theorem tokens_linkTrees (refs : List NodeRef) :
    (refs.map linkTree).flatMap LinkTree.tokens =
      (refs.flatMap fun next => (.arrow, "->") :: ofRef next).map place := by
  induction refs with
  | nil => rfl
  | cons ref refs ih =>
    rw [List.map_cons, List.flatMap_cons, ih, List.flatMap_cons, List.map_append, List.map_cons,
      ← tokens_refTree]
    rfl

theorem ofChain_cons (ref : NodeRef) (refs : List NodeRef) :
    ofChain (ref :: refs) = ofRef ref ++ refs.flatMap fun next => (.arrow, "->") :: ofRef next := by
  induction refs generalizing ref with
  | nil => exact (List.append_nil _).symm
  | cons next refs ih =>
    rw [ofChain, ih, List.flatMap_cons, List.cons_append]
    exact nofun

/-- What stands after the name of a node or after a chain: one list, even if it is empty. -/
theorem tokens_list (items : List AttrItem) :
    [listTree items].flatMap ListTree.tokens = (ofItems items).map place := by
  rw [List.flatMap_singleton, tokens_listTree]

theorem items_list {items : List AttrItem} (writable : items.all AttrItem.isWritable = true) :
    [listTree items].flatMap ListTree.items = items := by
  rw [List.flatMap_singleton, items_listTree writable]

theorem tokens_optional (name : Option String) :
    optionalTokens (name.map nameTree) = (optionalName name).map place := by
  cases name <;> rfl

theorem text_optional (name : Option String) : (name.map nameTree).map NameTree.text = name := by
  cases name with
  | none => rfl
  | some text => exact congrArg some (text_nameTree text)

theorem tokens_braced (inside : Spelling) :
    (mark .leftBrace "\x7b").1 :: (inside.map place ++ [(mark .rightBrace "\x7d").1]) =
      (braced inside).map place := by
  rw [braced, List.cons_append, List.map_cons, List.map_append]
  rfl

mutual

theorem exists_statementTree (statement : Statement) (writable : statement.isWritable = true) :
    ∃ tree : StatementTree, tree.tokens ++ semicolon.map place = (ofStatement statement).map place ∧
      tree.statement = statement := by
  cases statement with
  | graph | foreign => cases writable
  | subgraph id children =>
    rw [Statement.isWritable, Bool.and_eq_true] at writable
    obtain ⟨body, tokens, means⟩ := exists_bodyTree children writable.2
    refine ⟨.subgraph (some (keywordMark .subgraph, id.map nameTree)) (mark .leftBrace "\x7b") body
      (mark .rightBrace "\x7d"), ?_, ?_⟩
    · rw [StatementTree.tokens, tokens, tokens_braced, SubgraphHead.tokens, tokens_optional,
        ofStatement]
      simp [keyword, keywordMark]
    · rw [StatementTree.statement, means]
      exact congrArg (Statement.subgraph · children) (text_optional id)
  | node ref items =>
    rw [Statement.isWritable, Bool.and_eq_true] at writable
    refine ⟨.simple (.named (.node (refTree ref) [listTree items]) (NameTree.free_of_none rfl)),
      ?_, ?_⟩
    · change ((refTree ref).tokens ++ [listTree items].flatMap ListTree.tokens) ++ _ = _
      rw [tokens_refTree, tokens_list, ofStatement, List.map_append, List.map_append]
    · change Statement.node (refTree ref).value ([listTree items].flatMap ListTree.items) = _
      rw [value_refTree writable.1, items_list writable.2]
  | edge chain items =>
    rw [Statement.isWritable, Bool.and_eq_true, Bool.and_eq_true, decide_eq_true_eq] at writable
    obtain ⟨⟨long, ends⟩, pairs⟩ := writable
    rcases chain with _ | ⟨source, _ | ⟨next, refs⟩⟩
    · exact absurd long (by decide)
    · exact absurd long (by simp)
    rw [List.all_cons, Bool.and_eq_true] at ends
    refine ⟨.simple (.named (.edge (refTree source) (linkTree next) (refs.map linkTree)
      [listTree items]) (NameTree.free_of_none rfl)), ?_, ?_⟩
    · change ((refTree source).tokens ++ (((next :: refs).map linkTree).flatMap LinkTree.tokens ++
        [listTree items].flatMap ListTree.tokens)) ++ _ = _
      rw [tokens_refTree, tokens_linkTrees, tokens_list, ofStatement, ofChain_cons]
      simp only [List.map_append, List.append_assoc]
    · change Statement.edge ((refTree source).value :: ((next :: refs).map linkTree).map
        LinkTree.value) ([listTree items].flatMap ListTree.items) = _
      rw [value_refTree ends.1, values_linkTrees ends.2, items_list pairs]
  | attr target items =>
    refine ⟨.simple (.defaults target (keywordMark (targetKeyword target)) (listTree items) []),
      ?_, ?_⟩
    · change (keywordMark (targetKeyword target)).1 :: [listTree items].flatMap ListTree.tokens ++ _
        = _
      rw [tokens_list, ofStatement, List.map_append, List.map_append]
      rfl
    · change Statement.attr target ([listTree items].flatMap ListTree.items) = _
      rw [items_list writable]

theorem exists_bodyTree (statements : List Statement)
    (writable : Statement.areWritable statements = true) :
    ∃ tree : BodyTree, tree.tokens = (ofBody statements).map place ∧
      tree.statements = statements := by
  cases statements with
  | nil => exact ⟨.nil, rfl, rfl⟩
  | cons statement statements =>
    rw [Statement.areWritable, Bool.and_eq_true] at writable
    obtain ⟨first, tokens, means⟩ := exists_statementTree statement writable.1
    obtain ⟨rest, later, mean⟩ := exists_bodyTree statements writable.2
    refine ⟨.cons first (some (mark .semicolon ";")) rest, ?_, ?_⟩
    · rw [BodyTree.tokens, ofBody, List.map_append, ← tokens, ← later, List.append_assoc]
      rfl
    · rw [BodyTree.statements, means, mean]

end

theorem exists_declTree {decl : GraphDecl} (writable : decl.isWritable = true) :
    ∃ tree : DeclTree, tree.tokens = decl.spelling.map place ∧ tree.decl = decl := by
  obtain ⟨kind, strict, id, children⟩ := decl
  rw [GraphDecl.isWritable, Bool.and_eq_true] at writable
  obtain ⟨body, tokens, means⟩ := exists_bodyTree children writable.2
  refine ⟨⟨if strict then some (keywordMark .strict) else none, kind,
    keywordMark (GraphDecl.kindKeyword kind), id.map nameTree, mark .leftBrace "\x7b", body,
    mark .rightBrace "\x7d"⟩, ?_, ?_⟩
  · rw [DeclTree.tokens, tokens, tokens_braced, tokens_optional, GraphDecl.spelling]
    cases strict <;> simp [keyword, keywordMark]
  · rw [DeclTree.decl, means, text_optional]
    cases strict <;> rfl

theorem derives_spelling {decls : List GraphDecl} (writable : ∀ decl ∈ decls, decl.isWritable) :
    Derives ((decls.flatMap GraphDecl.spelling).map place) decls := by
  induction decls with
  | nil => exact ⟨[], rfl, rfl⟩
  | cons decl decls ih =>
    obtain ⟨tree, tokens, means⟩ := exists_declTree (writable decl List.mem_cons_self)
    obtain ⟨trees, later, mean⟩ := ih fun decl inside =>
      writable decl (List.mem_cons_of_mem _ inside)
    refine ⟨tree :: trees, ?_, ?_⟩
    · rw [List.flatMap_cons, tokens, later, List.flatMap_cons, List.map_append]
    · rw [List.map_cons, means, mean]

/-! ### What is written can be cut -/

/-- All tokens are written as lexemes of their kinds. -/
def AllWritable (spelling : Spelling) : Prop := ∀ token ∈ spelling, Token.Writable token

theorem allWritable_nil : AllWritable [] := List.forall_mem_nil _

theorem allWritable_append {first second : Spelling} :
    AllWritable (first ++ second) ↔ AllWritable first ∧ AllWritable second :=
  List.forall_mem_append

theorem allWritable_cons {token : TokenKind × String} {rest : Spelling} :
    AllWritable (token :: rest) ↔ Token.Writable token ∧ AllWritable rest :=
  List.forall_mem_cons

theorem allWritable_flatMap {α : Type} {items : List α} {spelling : α → Spelling}
    (each : ∀ item ∈ items, AllWritable (spelling item)) :
    AllWritable (items.flatMap spelling) := by
  intro token inside
  obtain ⟨item, here, within⟩ := List.mem_flatMap.mp inside
  exact each item here token within

theorem allWritable_name {text : String} (quotable : isQuotable text = true) :
    AllWritable (name text) :=
  allWritable_cons.mpr ⟨Token.writable_string quotable, nofun⟩

theorem allWritable_optionalName {id : Option String} (quotable : id.all isQuotable = true) :
    AllWritable (optionalName id) := by
  cases id with
  | none => exact nofun
  | some text => exact allWritable_name quotable

theorem allWritable_keyword (word : Keyword) : AllWritable (keyword word) :=
  allWritable_cons.mpr ⟨Token.writable_keyword word, nofun⟩

theorem allWritable_semicolon : AllWritable semicolon :=
  allWritable_cons.mpr ⟨Token.writable_punctuation rfl rfl, nofun⟩

theorem allWritable_braced {inside : Spelling} (writable : AllWritable inside) :
    AllWritable (braced inside) :=
  allWritable_cons.mpr ⟨Token.writable_punctuation rfl rfl, allWritable_append.mpr ⟨writable,
    allWritable_cons.mpr ⟨Token.writable_punctuation rfl rfl, nofun⟩⟩⟩

theorem allWritable_ofItem {item : AttrItem} (writable : item.isWritable = true) :
    AllWritable (ofItem item) := by
  cases item with
  | pair key value =>
    rw [AttrItem.isWritable, Bool.and_eq_true] at writable
    exact allWritable_append.mpr ⟨allWritable_name writable.1, allWritable_cons.mpr
      ⟨Token.writable_punctuation rfl rfl, allWritable_name writable.2⟩⟩
  | foreign => cases writable

theorem allWritable_ofItems {items : List AttrItem} (writable : items.all AttrItem.isWritable) :
    AllWritable (ofItems items) := by
  have pairs : AllWritable (items.flatMap ofItem) := allWritable_flatMap fun item inside =>
    allWritable_ofItem (List.all_eq_true.mp writable item inside)
  exact allWritable_cons.mpr ⟨Token.writable_punctuation rfl rfl, allWritable_append.mpr ⟨pairs,
    allWritable_cons.mpr ⟨Token.writable_punctuation rfl rfl, nofun⟩⟩⟩

theorem allWritable_ofRef {ref : NodeRef} (writable : ref.isWritable = true) :
    AllWritable (ofRef ref) := by
  obtain ⟨id, port⟩ := ref
  rw [NodeRef.isWritable, Bool.and_eq_true] at writable
  refine allWritable_append.mpr ⟨allWritable_name writable.1, ?_⟩
  cases port with
  | none => exact nofun
  | some port =>
    have quotable := (Bool.and_eq_true _ _ ▸ writable.2).2
    exact allWritable_cons.mpr ⟨Token.writable_punctuation rfl rfl, allWritable_name quotable⟩

theorem allWritable_ofChain {chain : List NodeRef} (writable : chain.all NodeRef.isWritable) :
    AllWritable (ofChain chain) := by
  cases chain with
  | nil => exact nofun
  | cons ref refs =>
    rw [List.all_cons, Bool.and_eq_true] at writable
    rw [ofChain_cons]
    refine allWritable_append.mpr ⟨allWritable_ofRef writable.1, allWritable_flatMap ?_⟩
    intro next inside
    exact allWritable_cons.mpr ⟨Token.writable_arrow,
      allWritable_ofRef (List.all_eq_true.mp writable.2 next inside)⟩

mutual

theorem allWritable_ofStatement (statement : Statement) (writable : statement.isWritable = true) :
    AllWritable (ofStatement statement) := by
  cases statement with
  | graph | foreign => cases writable
  | subgraph id children =>
    rw [Statement.isWritable, Bool.and_eq_true] at writable
    rw [ofStatement]
    simp only [allWritable_append]
    exact ⟨⟨⟨allWritable_keyword .subgraph, allWritable_optionalName writable.1⟩,
      allWritable_braced (allWritable_ofBody children writable.2)⟩, allWritable_semicolon⟩
  | node ref items =>
    rw [Statement.isWritable, Bool.and_eq_true] at writable
    rw [ofStatement]
    simp only [allWritable_append]
    exact ⟨⟨allWritable_ofRef writable.1, allWritable_ofItems writable.2⟩, allWritable_semicolon⟩
  | edge chain items =>
    rw [Statement.isWritable, Bool.and_eq_true, Bool.and_eq_true] at writable
    rw [ofStatement]
    simp only [allWritable_append]
    exact ⟨⟨allWritable_ofChain writable.1.2, allWritable_ofItems writable.2⟩,
      allWritable_semicolon⟩
  | attr target items =>
    rw [ofStatement]
    simp only [allWritable_append]
    exact ⟨⟨allWritable_keyword _, allWritable_ofItems writable⟩, allWritable_semicolon⟩

theorem allWritable_ofBody (statements : List Statement)
    (writable : Statement.areWritable statements = true) : AllWritable (ofBody statements) := by
  cases statements with
  | nil => exact nofun
  | cons statement statements =>
    rw [Statement.areWritable, Bool.and_eq_true] at writable
    rw [ofBody, allWritable_append]
    exact ⟨allWritable_ofStatement statement writable.1, allWritable_ofBody statements writable.2⟩

end

theorem allWritable_spelling {decl : GraphDecl} (writable : decl.isWritable = true) :
    AllWritable decl.spelling := by
  rw [GraphDecl.isWritable, Bool.and_eq_true] at writable
  rw [GraphDecl.spelling]
  simp only [allWritable_append]
  refine ⟨⟨⟨?_, allWritable_keyword _⟩, allWritable_optionalName writable.1⟩,
    allWritable_braced (allWritable_ofBody decl.children writable.2)⟩
  split
  · exact allWritable_keyword .strict
  · exact nofun

end Spelling

namespace GraphDecl

open Spelling

/-- How a text is read depends on its tokens but not on their places. -/
theorem parse_of_spelling {source : String} {spelling : Spelling} {decls : List GraphDecl}
    (whole : (scan true source.toList).failure? = none)
    (spelled : (frontTokens source).map (fun token => (token.kind, token.text)) = spelling)
    (derived : Derives (spelling.map place) decls) : parse source = .ok decls := by
  obtain ⟨trees, parts, rfl⟩ := derived
  have placed : (frontTokens source).map (fun token => place (token.kind, token.text)) =
      trees.flatMap DeclTree.tokens := by
    rw [parts, ← spelled, List.map_map]
    rfl
  have blind := Reader.blind_declarations
    (show Token.Keeps fun token => place (token.kind, token.text) from fun _ => ⟨rfl, rfl⟩)
    (frontTokens source ++ [Token.endOfInput source.length])
  unfold Reader.BlindOn at blind
  -- without places the tokens are those of the trees, which are read as a whole
  rw [List.map_append, placed, Reader.reads_declarations.complete trees rfl] at blind
  rw [parse_of_tokenize (Token.tokenize_of_none whole)]
  cases found : Reader.declarations.run
      (frontTokens source ++ [Token.endOfInput source.length]) with
  | error rejection =>
    rw [found] at blind
    cases blind
  | ok result =>
    rw [found] at blind
    obtain ⟨same, -⟩ := Prod.mk.inj (Except.ok.inj blind)
    exact ⟨result.2, by rw [same]⟩

/-- Declarations that are written are read back as they are. -/
theorem parse_print {decls : List GraphDecl} (writable : ∀ decl ∈ decls, decl.isWritable = true) :
    parse (print decls) = .ok decls := by
  have tokens : AllWritable (decls.flatMap spelling) :=
    allWritable_flatMap fun decl inside => allWritable_spelling (writable decl inside)
  have source : (print decls).toList = Token.render (decls.flatMap spelling) :=
    String.toList_ofList
  have cut := scan_render tokens true 0
  rw [← source] at cut
  exact parse_of_spelling cut.1 cut.2 (derives_spelling writable)

/-- Names that spell keywords, an empty name, a quote, braces, a comment and escapes in strings. -/
theorem parse_print_strings :
    print [⟨.digraph, true, some "node", [.subgraph (some "") [.attr .edge []],
        .edge [⟨"subgraph", none⟩, ⟨"a", some "\x7d\""⟩] [.pair "//" "\\l\n#"]]⟩] =
      "strict digraph \"node\" \x7b subgraph \"\" \x7b edge [ ] ; \x7d ; " ++
        "\"subgraph\" -> \"a\" : \"\x7d\\\"\" [ \"//\" = \"\\l\n#\" ] ; \x7d" ∧
    parse ("strict digraph \"node\" \x7b subgraph \"\" \x7b edge [ ] ; \x7d ; " ++
        "\"subgraph\" -> \"a\" : \"\x7d\\\"\" [ \"//\" = \"\\l\n#\" ] ; \x7d") =
      .ok [⟨.digraph, true, some "node", [.subgraph (some "") [.attr .edge []],
        .edge [⟨"subgraph", none⟩, ⟨"a", some "\x7d\""⟩] [.pair "//" "\\l\n#"]]⟩] := by
  have text : print [⟨.digraph, true, some "node", [.subgraph (some "") [.attr .edge []],
        .edge [⟨"subgraph", none⟩, ⟨"a", some "\x7d\""⟩] [.pair "//" "\\l\n#"]]⟩] =
      "strict digraph \"node\" \x7b subgraph \"\" \x7b edge [ ] ; \x7d ; " ++
        "\"subgraph\" -> \"a\" : \"\x7d\\\"\" [ \"//\" = \"\\l\n#\" ] ; \x7d" := by
    decide
  refine ⟨text, ?_⟩
  rw [← text]
  apply parse_print
  intro decl inside
  cases List.mem_singleton.mp inside
  decide

end GraphDecl

end DotGraph
