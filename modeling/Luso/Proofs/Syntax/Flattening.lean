import Luso.Proofs.Syntax.Exactness
import Luso.Proofs.Syntax.Names
import Luso.Proofs.Syntax.Parallel

/-!
# What a tree keeps of its tokens

A program that is read keeps all its tokens in their order, but for parentheses and terminators.  So
every name in it is a word of the source text and no reserved one.
-/

namespace Luso

/-! ## Flattening -/

/-- The tokens of an expression without parentheses. -/
def Expression.flatten : Expression → List Token
  | .integer value => [.integer value]
  | .real value => [.decimal value]
  | .identifier name => [.identifier name]
  | .binary operation left right =>
      left.flatten ++ .operator (.arithmetic operation) :: right.flatten
  | .assignment name value => .identifier name :: .operator .assign :: value.flatten

/-- The tokens of a statement without parentheses. -/
def Statement.flatten : Statement → List Token
  | .declaration type name none => [.keyword (.declare type), .identifier name]
  | .declaration type name (some initial) =>
      .keyword (.declare type) :: .identifier name :: .operator .assign :: initial.flatten
  | .print argument => .keyword .print :: argument.flatten
  | .expression value => value.flatten

/-- The tokens of a program without parentheses and terminators. -/
def Program.flatten (program : Program) : List Token :=
  program.flatMap Statement.flatten

/-- Whether a token is neither a parenthesis nor a terminator. -/
def Token.isKept : Token → Bool
  | .keyword _ | .operator _ | .identifier _ | .integer _ | .decimal _ => true
  | .punctuation _ => false

/-- Whatever phrase the tokens derive, its tree keeps them in order. -/
theorem Derives.flatten_eq {phrase : Phrase} {tokens : List Token} {tree : Expression}
    (derivation : Derives phrase tokens tree) : tree.flatten = tokens.filter Token.isKept := by
  induction derivation with
  | integer | real | name | targetName => rfl
  | ofSum _ induction | ofTerm _ induction | ofAtom _ induction => exact induction
  | targetGroup _ induction | group _ induction =>
      simp [induction, Token.isKept]
  | sum _ _ _ leftInduction rightInduction | product _ _ _ leftInduction rightInduction =>
      simp [Expression.flatten, leftInduction, rightInduction, List.filter_cons, Token.isKept]
  | assignment _ _ targetInduction valueInduction =>
      simp [Expression.flatten, ← targetInduction, valueInduction, List.filter_cons, Token.isKept]

theorem DerivesStatement.flatten_eq {tokens : List Token} {statement : Statement}
    (derivation : DerivesStatement tokens statement) :
    statement.flatten = tokens.filter Token.isKept := by
  cases derivation with
  | bare => rfl
  | initialised _ _ value | print value =>
      simp [Statement.flatten, value.flatten_eq, List.filter_cons, Token.isKept]
  | expression value => exact value.flatten_eq

/-- A program keeps its tokens in order, but for parentheses and terminators. -/
theorem DerivesProgram.flatten_eq {tokens : List Token} {program : Program}
    (derivation : DerivesProgram tokens program) :
    program.flatten = tokens.filter Token.isKept := by
  induction derivation with
  | nil => rfl
  | last statement => simp [Program.flatten, statement.flatten_eq]
  | cons statement _ induction =>
      rw [Program.flatten] at induction ⊢
      simp [statement.flatten_eq, induction, Token.isKept]

/-! ## Names -/

theorem Expression.identifier_mem_flatten {expression : Expression} {name : String}
    (member : name ∈ expression.names) : .identifier name ∈ expression.flatten := by
  induction expression with
  | integer | real => cases member
  | identifier => simpa [names, flatten] using member
  | binary operation left right leftInduction rightInduction =>
      rw [flatten, List.mem_append, List.mem_cons]
      rcases List.mem_append.mp member with inLeft | inRight
      · exact .inl (leftInduction inLeft)
      · exact .inr (.inr (rightInduction inRight))
  | assignment target value induction =>
      rw [flatten, List.mem_cons, List.mem_cons]
      rcases List.mem_cons.mp member with rfl | inValue
      · exact .inl rfl
      · exact .inr (.inr (induction inValue))

theorem Statement.identifier_mem_flatten {statement : Statement} {name : String}
    (mentions : statement.Mentions name) : .identifier name ∈ statement.flatten := by
  cases statement with
  | declaration type declared initial =>
      cases initial with
      | none =>
          rcases mentions with ⟨⟨⟩⟩ | used
          · simp [flatten]
          · cases used
      | some initial =>
          rcases mentions with ⟨⟨⟩⟩ | used
          · simp [flatten]
          · simpa [flatten] using .inr (Expression.identifier_mem_flatten used)
  | print argument =>
      rcases mentions with ⟨⟨⟩⟩ | used
      simpa [flatten] using Expression.identifier_mem_flatten used
  | expression value =>
      rcases mentions with ⟨⟨⟩⟩ | used
      exact Expression.identifier_mem_flatten used

/-- A text can only be read if it can be split into tokens. -/
theorem derives_of_parse {source : String} {program : Program}
    (parsed : parse source = .ok program) :
    ∃ tokens, tokenize source = .ok tokens ∧ DerivesProgram tokens program := by
  rcases parse_of_alike (.refl (feedOf source)) with
    ⟨_, place, -, -, finished⟩ | ⟨error, _, failed, -⟩
  · have split : tokenize source = .ok (feedOf source).tokens := by
      rw [tokenize_eq_result_feedOf, Feed.result_eq_ok_iff]
      exact ⟨rfl, place, finished⟩
    refine ⟨_, split, ?_⟩
    rw [parse] at parsed
    cases outcome : Reading.program .standard (TokenStream.ofSource source) with
    | done value after used =>
        rw [outcome] at parsed
        cases parsed
        exact derives_of_program _ split outcome
    | failed error after =>
        rw [outcome] at parsed
        cases parsed
  · cases parsed.symm.trans failed

/-- Every token that is handed out for a text stands for a lexeme. -/
theorem exists_classifies_of_mem_feedOf {source : String} {token : Token}
    (member : token ∈ (feedOf source).tokens) : ∃ text, Classifies text token := by
  obtain ⟨lexemes, stop, rest, -, classify, -⟩ := feedOf_reports source
  obtain ⟨⟨token, place⟩, placed_mem, rfl⟩ := List.mem_map.mp member
  obtain ⟨⟨text, start⟩, -, classified, -⟩ := exists_left_of_forall₂ classify placed_mem
  exact ⟨text, classified⟩

/-- An identifier that is handed out for a text is a word and no reserved one. -/
theorem isWord_of_mem_feedOf {source name : String}
    (member : .identifier name ∈ (feedOf source).tokens) :
    IsWord name.toList ∧ ∀ word : Keyword, word.spelling ≠ name := by
  obtain ⟨text, classified⟩ := exists_classifies_of_mem_feedOf member
  cases classified with
  | identifier isWord notReserved =>
      rw [String.toList_ofList]
      refine ⟨isWord, fun word spelled => notReserved word ?_⟩
      rw [spelled, String.toList_ofList]

/-- Every token of a text stands for a lexeme. -/
theorem exists_classifies_of_tokenize {source : String} {tokens : List Token} {token : Token}
    (split : tokenize source = .ok tokens) (member : token ∈ tokens) :
    ∃ text, Classifies text token := by
  rw [tokenize_eq_result_feedOf, Feed.result_eq_ok_iff] at split
  obtain ⟨rfl, -⟩ := split
  exact exists_classifies_of_mem_feedOf member

/-- An identifier among the tokens of a text is a word and no reserved one. -/
theorem isWord_of_tokenize {source : String} {tokens : List Token} {name : String}
    (split : tokenize source = .ok tokens) (member : .identifier name ∈ tokens) :
    IsWord name.toList ∧ ∀ word : Keyword, word.spelling ≠ name := by
  rw [tokenize_eq_result_feedOf, Feed.result_eq_ok_iff] at split
  obtain ⟨rfl, -⟩ := split
  exact isWord_of_mem_feedOf member

/-- Every name in a program that is read is a word and no reserved one. -/
theorem isWord_of_parse {source : String} {program : Program} {statement : Statement}
    {name : String} (parsed : parse source = .ok program) (member : statement ∈ program)
    (mentions : statement.Mentions name) :
    IsWord name.toList ∧ ∀ word : Keyword, word.spelling ≠ name := by
  obtain ⟨tokens, split, derivation⟩ := derives_of_parse parsed
  have kept : .identifier name ∈ program.flatten :=
    List.mem_flatMap.mpr ⟨statement, member, statement.identifier_mem_flatten mentions⟩
  rw [derivation.flatten_eq] at kept
  exact isWord_of_tokenize split (List.mem_filter.mp kept).1

end Luso
