import Luso.Syntax.Basic

/-!
# Derivations of programs

The grammar of the language, stated for lists of tokens.  It is stratified: sums are built of terms
and terms of atoms, each grouped from the left, and an assignment stands above them, grouped from
the right.  Every derivation carries the tree that it stands for; parentheses and terminators are
in the tokens only.
-/

namespace Luso

/-- The phrases that expressions are built of. -/
inductive Phrase where
  /-- An assignment or a sum. -/
  | expression
  /-- The left side of an assignment. -/
  | target
  /-- Terms that are added and subtracted. -/
  | sum
  /-- Atoms that are multiplied and divided. -/
  | term
  /-- A literal, a name or an expression in parentheses. -/
  | atom
deriving DecidableEq

/-- Whether an operation joins terms to a sum; the others join atoms to a term. -/
def Arithmetic.isAdditive : Arithmetic → Bool
  | .add | .subtract => true
  | .multiply | .divide => false

/-- The tokens derive a phrase with the given tree. -/
inductive Derives : Phrase → List Token → Expression → Prop where
  | assignment {left right name value} :
      Derives .target left (.identifier name) → Derives .expression right value →
      Derives .expression (left ++ .operator .assign :: right) (.assignment name value)
  | ofSum {tokens tree} : Derives .sum tokens tree → Derives .expression tokens tree
  | targetName (name) : Derives .target [.identifier name] (.identifier name)
  | targetGroup {tokens tree} :
      Derives .target tokens tree →
      Derives .target (.punctuation .openParen :: tokens ++ [.punctuation .closeParen]) tree
  | sum {sign left right leftTree rightTree} :
      sign.isAdditive = true → Derives .sum left leftTree → Derives .term right rightTree →
      Derives .sum (left ++ .operator (.arithmetic sign) :: right)
        (.binary sign leftTree rightTree)
  | ofTerm {tokens tree} : Derives .term tokens tree → Derives .sum tokens tree
  | product {sign left right leftTree rightTree} :
      sign.isAdditive = false → Derives .term left leftTree → Derives .atom right rightTree →
      Derives .term (left ++ .operator (.arithmetic sign) :: right)
        (.binary sign leftTree rightTree)
  | ofAtom {tokens tree} : Derives .atom tokens tree → Derives .term tokens tree
  | integer (value) : Derives .atom [.integer value] (.integer value)
  | real (value) : Derives .atom [.decimal value] (.real value)
  | name (name) : Derives .atom [.identifier name] (.identifier name)
  | group {tokens tree} :
      Derives .expression tokens tree →
      Derives .atom (.punctuation .openParen :: tokens ++ [.punctuation .closeParen]) tree

/-- Whether a statement declares a variable without a first value. -/
def Statement.isBare : Statement → Bool
  | .declaration _ _ none => true
  | _ => false

/-- The tokens derive a statement. -/
inductive DerivesStatement : List Token → Statement → Prop where
  | bare (type name) :
      DerivesStatement [.keyword (.declare type), .identifier name] (.declaration type name none)
  | initialised (type name) {tokens value} :
      Derives .expression tokens value →
      DerivesStatement
        (.keyword (.declare type) :: .identifier name :: .operator .assign :: tokens)
        (.declaration type name (some value))
  | print {tokens argument} :
      Derives .expression tokens argument →
      DerivesStatement
        (.keyword .print :: .punctuation .openParen :: tokens ++ [.punctuation .closeParen])
        (.print argument)
  | expression {tokens value} :
      Derives .expression tokens value → DerivesStatement tokens (.expression value)

/-- The tokens derive a program: statements that are each ended by a terminator, which the last one
may lack unless it is a bare declaration. -/
inductive DerivesProgram : List Token → Program → Prop where
  | nil : DerivesProgram [] []
  | last {tokens statement} :
      DerivesStatement tokens statement → statement.isBare = false →
      DerivesProgram tokens [statement]
  | cons {tokens rest statement others} :
      DerivesStatement tokens statement → DerivesProgram rest others →
      DerivesProgram (tokens ++ .punctuation .terminator :: rest) (statement :: others)

/-- A name is derived only from itself, possibly in parentheses; so it can be assigned to. -/
theorem Derives.target_of_identifier {phrase : Phrase} {tokens : List Token} {name : String}
    (derivation : Derives phrase tokens (.identifier name)) :
    Derives .target tokens (.identifier name) := by
  generalize tree_eq : Expression.identifier name = tree at derivation
  induction derivation with
  | assignment => simp at tree_eq
  | sum => simp at tree_eq
  | product => simp at tree_eq
  | integer => simp at tree_eq
  | real => simp at tree_eq
  | targetName => exact .targetName _
  | name => exact .targetName _
  | ofSum _ induction => exact induction tree_eq
  | ofTerm _ induction => exact induction tree_eq
  | ofAtom _ induction => exact induction tree_eq
  | targetGroup _ induction => exact .targetGroup (induction tree_eq)
  | group _ induction => exact .targetGroup (induction tree_eq)

theorem Derives.expression_of_atom {tokens : List Token} {tree : Expression}
    (atom : Derives .atom tokens tree) : Derives .expression tokens tree :=
  .ofSum (.ofTerm (.ofAtom atom))

/-- Between two atoms, a sign of any binding power makes an expression. -/
theorem Derives.binary_of_atoms (operation : Arithmetic) {left right : List Token}
    {leftTree rightTree : Expression} (leftAtom : Derives .atom left leftTree)
    (rightAtom : Derives .atom right rightTree) :
    Derives .expression (left ++ .operator (.arithmetic operation) :: right)
      (.binary operation leftTree rightTree) := by
  cases additive : operation.isAdditive with
  | true => exact .ofSum (.sum additive (.ofTerm (.ofAtom leftAtom)) (.ofAtom rightAtom))
  | false => exact .ofSum (.ofTerm (.product additive (.ofAtom leftAtom) rightAtom))

/-- A phrase is not empty, and no keyword starts it. -/
theorem Derives.exists_first {phrase : Phrase} {tokens : List Token} {tree : Expression}
    (derivation : Derives phrase tokens tree) :
    ∃ first behind, tokens = first :: behind ∧ first.kind ≠ .keyword := by
  induction derivation with
  | integer | real | name | targetName => exact ⟨_, [], rfl, by rintro ⟨⟩⟩
  | targetGroup | group => exact ⟨_, _, rfl, by rintro ⟨⟩⟩
  | ofSum _ induction | ofTerm _ induction | ofAtom _ induction => exact induction
  | assignment _ _ induction | sum _ _ _ induction | product _ _ _ induction =>
      obtain ⟨first, behind, rfl, noKeyword⟩ := induction
      exact ⟨first, _, rfl, noKeyword⟩

theorem DerivesStatement.exists_first {tokens : List Token} {statement : Statement}
    (derivation : DerivesStatement tokens statement) :
    ∃ first behind, tokens = first :: behind := by
  cases derivation with
  | bare | initialised | print => exact ⟨_, _, rfl⟩
  | expression value =>
      obtain ⟨first, behind, tokens_eq, -⟩ := value.exists_first
      exact ⟨first, behind, tokens_eq⟩

end Luso
