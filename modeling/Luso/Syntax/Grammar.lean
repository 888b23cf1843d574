import Luso.Token.Basic

/-!
# Grammars

A grammar says how a construct is recognised by its first token: which keywords start a statement,
which tokens start an expression, and which operators continue one.  What is not registered is not
part of the language.
-/

namespace Luso

/-- How strongly an operator binds, weakest first. -/
inductive BindingPower where
  /-- Weaker than every operator. -/
  | lowest
  /-- Assignment. -/
  | assignment
  /-- Sums and differences. -/
  | additive
  /-- Products and quotients. -/
  | multiplicative
deriving DecidableEq

/-- The place of a binding power in their order. -/
def BindingPower.rank : BindingPower → Nat
  | .lowest => 0
  | .assignment => 1
  | .additive => 2
  | .multiplicative => 3

/-- The ways in which an expression starts. -/
inductive AtomForm where
  /-- A literal or a name. -/
  | primary
  /-- An expression in parentheses. -/
  | group
deriving DecidableEq

/-- The ways in which an operator continues an expression. -/
inductive OperatorForm where
  /-- An arithmetic operation. -/
  | binary
  /-- An assignment. -/
  | assignment
deriving DecidableEq

/-- The statements that start with a keyword. -/
inductive StatementForm where
  /-- A declaration. -/
  | declaration
  /-- A print statement. -/
  | print
deriving DecidableEq

/-- The constructs of a language, by the token that announces them. -/
structure Grammar where
  /-- The statement that a keyword starts. -/
  statement : Keyword → Option StatementForm
  /-- The expression that a token of a sort starts. -/
  atom : TokenKind → Option AtomForm
  /-- How strongly an operator binds and how it continues an expression. -/
  operator : Operator → Option (BindingPower × OperatorForm)

namespace Grammar

/-- The grammar without any construct. -/
def empty : Grammar :=
  { statement := fun _ => none, atom := fun _ => none, operator := fun _ => none }

/-- Let a keyword start a statement. -/
def withStatement (grammar : Grammar) (keyword : Keyword) (form : StatementForm) : Grammar :=
  { grammar with
    statement := fun other => if other = keyword then some form else grammar.statement other }

/-- Let the tokens of a sort start an expression. -/
def withAtom (grammar : Grammar) (kind : TokenKind) (form : AtomForm) : Grammar :=
  { grammar with atom := fun other => if other = kind then some form else grammar.atom other }

/-- Let an operator continue an expression. -/
def withOperator (grammar : Grammar) (operator : Operator) (power : BindingPower)
    (form : OperatorForm) : Grammar :=
  { grammar with
    operator := fun other =>
      if other = operator then some (power, form) else grammar.operator other }

/-- The grammar of the language. -/
def standard : Grammar :=
  { statement := fun keyword =>
      match keyword with
      | .declare _ => some .declaration
      | .print => some .print
    atom := fun kind =>
      match kind with
      | .integer | .decimal | .identifier => some .primary
      | .punctuation => some .group
      | .keyword | .operator => none
    operator := fun operator =>
      match operator with
      | .assign => some (.assignment, .assignment)
      | .arithmetic .add | .arithmetic .subtract => some (.additive, .binary)
      | .arithmetic .multiply | .arithmetic .divide => some (.multiplicative, .binary) }

end Grammar

/-- Whether an operator of power `own` continues an expression that is read at power `floor`.  It
must bind more strongly; one that groups from the right may also bind equally. -/
def Operator.binds (operator : Operator) (own floor : BindingPower) : Bool :=
  match operator.associativity with
  | .left => floor.rank < own.rank
  | .right => floor.rank ≤ own.rank

end Luso
