import Luso.Proofs.Syntax.Derivation
import Luso.Syntax.Grammar

/-!
# Precedence climbing

The readings of expressions as a relation on lists of tokens, for an arbitrary grammar.  For the
standard grammar the readings are exactly the derivations: a reading carries the tree in front of
the operators still to come, and the invariant is that this tree derives from the tokens already
read, as a phrase that these operators may continue.
-/

namespace Luso

/-- Whether a token continues an expression that is read at the given power. -/
def Grammar.continues (grammar : Grammar) (power : BindingPower) : Option Token → Bool
  | some (.operator sign) =>
      (grammar.operator sign).any (fun entry => sign.binds entry.1 power)
  | _ => false

theorem Grammar.continues_of_no_operator {grammar : Grammar} {power : BindingPower}
    {next : Option Token} (noOperator : ∀ sign, next = some (.operator sign) → False) :
    grammar.continues power next = false := by
  rw [Grammar.continues.eq_def]
  split
  · exact (noOperator _ rfl).elim
  · rfl

/-- The expression that a token stands for on its own. -/
def Token.literal? : Token → Option Expression
  | .integer value => some (.integer value)
  | .decimal value => some (.real value)
  | .identifier name => some (.identifier name)
  | _ => none

/-- What is read of an expression. -/
inductive Task where
  /-- All of it, at a power. -/
  | whole (power : BindingPower)
  /-- The operators behind the tree read so far, at a power. -/
  | operators (left : Expression) (power : BindingPower)

/-- The power at which a task reads. -/
def Task.power : Task → BindingPower
  | .whole power => power
  | .operators _ power => power

/-- From the first tokens a task reads a tree and leaves the second ones. -/
inductive Climbs (grammar : Grammar) : Task → List Token → Expression → List Token → Prop where
  | literal {token left behind power tree rest} :
      grammar.atom token.kind = some .primary → token.literal? = some left →
      Climbs grammar (.operators left power) behind tree rest →
      Climbs grammar (.whole power) (token :: behind) tree rest
  | group {inside left behind power tree rest} :
      grammar.atom .punctuation = some .group →
      Climbs grammar (.whole .lowest) inside left (.punctuation .closeParen :: behind) →
      Climbs grammar (.operators left power) behind tree rest →
      Climbs grammar (.whole power) (.punctuation .openParen :: inside) tree rest
  | stop {left power tokens} :
      grammar.continues power tokens.head? = false →
      Climbs grammar (.operators left power) tokens left tokens
  | binary {sign own left power behind right middle tree rest} :
      grammar.operator (.arithmetic sign) = some (own, .binary) →
      (Operator.arithmetic sign).binds own power = true →
      Climbs grammar (.whole own) behind right middle →
      Climbs grammar (.operators (.binary sign left right) power) middle tree rest →
      Climbs grammar (.operators left power) (.operator (.arithmetic sign) :: behind) tree rest
  | assignment {own name power behind value middle tree rest} :
      grammar.operator .assign = some (own, .assignment) →
      Operator.assign.binds own power = true →
      Climbs grammar (.whole own) behind value middle →
      Climbs grammar (.operators (.assignment name value) power) middle tree rest →
      Climbs grammar (.operators (.identifier name) power) (.operator .assign :: behind) tree rest

namespace Climbs

/-- What was read is not continued by the tokens left. -/
theorem stopped {grammar : Grammar} {task : Task} {tokens rest : List Token} {tree : Expression}
    (climb : Climbs grammar task tokens tree rest) :
    grammar.continues task.power rest.head? = false := by
  induction climb with
  | literal _ _ _ induction => exact induction
  | group _ _ _ _ induction => exact induction
  | stop stops => exact stops
  | binary _ _ _ _ _ induction => exact induction
  | assignment _ _ _ _ _ induction => exact induction

/-- Tokens are only taken off the front. -/
theorem suffix {grammar : Grammar} {task : Task} {tokens rest : List Token} {tree : Expression}
    (climb : Climbs grammar task tokens tree rest) : rest <:+ tokens := by
  induction climb with
  | literal _ _ _ induction => exact induction.trans (List.suffix_cons _ _)
  | group _ _ _ inner induction =>
      have contents := (List.suffix_cons _ _).trans inner
      exact (induction.trans contents).trans (List.suffix_cons _ _)
  | stop => exact List.suffix_refl _
  | binary _ _ _ _ inner induction => exact (induction.trans inner).trans (List.suffix_cons _ _)
  | assignment _ _ _ _ inner induction => exact (induction.trans inner).trans (List.suffix_cons _ _)

end Climbs

/-! ## The standard grammar -/

/-- The power of an operation in the standard grammar. -/
def Arithmetic.power (sign : Arithmetic) : BindingPower :=
  if sign.isAdditive then .additive else .multiplicative

/-- The phrase that is read at a power. -/
def BindingPower.phrase : BindingPower → Phrase
  | .lowest | .assignment => .expression
  | .additive => .term
  | .multiplicative => .atom

/-- Whether a phrase may stand, at the given power, in front of the next token: it is complete as a
phrase of its own sort, and it is no looser than what is read at that power. -/
def Phrase.Fits (power : BindingPower) (next : Option Token) : Phrase → Prop
  | .atom | .target => True
  | .term => power.rank ≤ BindingPower.additive.rank
  | .sum =>
      power.rank ≤ BindingPower.assignment.rank ∧ Grammar.standard.continues .additive next = false
  | .expression =>
      power.rank ≤ BindingPower.assignment.rank ∧
        Grammar.standard.continues .assignment next = false

theorem standard_operator_arithmetic (sign : Arithmetic) :
    Grammar.standard.operator (.arithmetic sign) = some (sign.power, .binary) := by
  cases sign <;> rfl

@[simp]
theorem standard_continues_arithmetic (power : BindingPower) (sign : Arithmetic) :
    Grammar.standard.continues power (some (.operator (.arithmetic sign))) =
      decide (power.rank < sign.power.rank) := by
  cases sign <;> rfl

@[simp]
theorem standard_continues_assign (power : BindingPower) :
    Grammar.standard.continues power (some (.operator .assign)) =
      decide (power.rank ≤ BindingPower.assignment.rank) := rfl

theorem standard_continues_multiplicative (next : Option Token) :
    Grammar.standard.continues .multiplicative next = false := by
  rcases next with _ | (_ | _ | _ | _ | sign | _) <;> try rfl
  rcases sign with sign | _
  · cases sign <;> rfl
  · rfl

/-- What ends an expression also ends its summands. -/
theorem standard_continues_additive {next : Option Token}
    (ends : Grammar.standard.continues .assignment next = false) :
    Grammar.standard.continues .additive next = false := by
  rcases next with _ | (_ | _ | _ | _ | sign | _) <;> try rfl
  rcases sign with sign | _
  · cases sign <;> exact absurd ends (by decide)
  · rfl

namespace Derives

theorem atom_of_target {tokens : List Token} {tree : Expression}
    (derivation : Derives .target tokens tree) : Derives .atom tokens tree := by
  generalize phrase_eq : Phrase.target = phrase at derivation
  induction derivation with
  | targetName name => exact .name name
  | targetGroup _ induction => exact .group (.ofSum (.ofTerm (.ofAtom (induction rfl))))
  | _ => cases phrase_eq

/-- A phrase that fits at a power is a phrase of the sort that is read there. -/
theorem at_power {phrase : Phrase} {power : BindingPower} {next : Option Token}
    {tokens : List Token} {tree : Expression} (fits : phrase.Fits power next)
    (derivation : Derives phrase tokens tree) : Derives power.phrase tokens tree := by
  have fromAtom (atom : Derives .atom tokens tree) : Derives power.phrase tokens tree := by
    cases power with
    | multiplicative => exact atom
    | additive => exact .ofAtom atom
    | lowest | assignment => exact .ofSum (.ofTerm (.ofAtom atom))
  cases phrase with
  | atom => exact fromAtom derivation
  | target => exact fromAtom derivation.atom_of_target
  | term =>
      cases power with
      | multiplicative => simp [Phrase.Fits, BindingPower.rank] at fits
      | additive => exact derivation
      | lowest | assignment => exact .ofSum (.ofTerm derivation)
  | sum =>
      cases power with
      | multiplicative | additive => simp [Phrase.Fits, BindingPower.rank] at fits
      | lowest | assignment => exact .ofSum derivation
  | expression =>
      cases power with
      | multiplicative | additive => simp [Phrase.Fits, BindingPower.rank] at fits
      | lowest | assignment => exact derivation

/-- A phrase in front of an arithmetic operator is what the grammar wants on its left side. -/
theorem left_operand {phrase : Phrase} {power : BindingPower} {sign : Arithmetic}
    {tokens : List Token} {tree : Expression}
    (fits : phrase.Fits power (some (.operator (.arithmetic sign))))
    (derivation : Derives phrase tokens tree) :
    Derives (if sign.isAdditive then .sum else .term) tokens tree := by
  have fromTerm (term : Derives .term tokens tree) :
      Derives (if sign.isAdditive then .sum else .term) tokens tree := by
    split
    · exact .ofTerm term
    · exact term
  cases phrase with
  | atom => exact fromTerm (.ofAtom derivation)
  | target => exact fromTerm (.ofAtom derivation.atom_of_target)
  | term => exact fromTerm derivation
  | sum =>
      have additive : sign.isAdditive = true := by
        obtain ⟨-, ended⟩ := fits
        cases sign with
        | add | subtract => rfl
        | multiply | divide => exact absurd ended (by decide)
      rw [if_pos additive]
      exact derivation
  | expression =>
      obtain ⟨-, ended⟩ := fits
      cases sign <;> exact absurd ended (by decide)

end Derives

/-- The tree that a task has read derives from the tokens between `tokens` and `rest`.  Behind a tree
that fits in front of the operators, this includes the tokens which that tree derives from. -/
def Task.Derived (tokens : List Token) (tree : Expression) (rest : List Token) : Task → Prop
  | .whole power => ∃ used, tokens = used ++ rest ∧ Derives power.phrase used tree
  | .operators left power =>
      ∀ phrase front, phrase.Fits power tokens.head? → Derives phrase front left →
        ∃ used, tokens = used ++ rest ∧ Derives power.phrase (front ++ used) tree

/-- Everything that is read derives from the tokens used up. -/
theorem derives_of_climbs {task : Task} {tokens rest : List Token} {tree : Expression}
    (climb : Climbs .standard task tokens tree rest) : task.Derived tokens tree rest := by
  induction climb with
  | @literal token left behind power tree rest _ literal _ induction =>
      have atom : Derives .atom [token] left := by
        cases token <;> cases literal <;> constructor
      obtain ⟨used, rfl, derivation⟩ := induction .atom [token] trivial atom
      exact ⟨token :: used, rfl, derivation⟩
  | group _ _ _ inner induction =>
      obtain ⟨used, rfl, value⟩ := inner
      obtain ⟨more, rfl, derivation⟩ := induction .atom _ trivial (.group value)
      exact ⟨_, by simp, derivation⟩
  | stop stops =>
      intro phrase front fits derivation
      exact ⟨[], rfl, by simpa using derivation.at_power fits⟩
  | @binary sign own left power behind right middle tree rest registered binds operand _ inner
      induction =>
      intro phrase front fits derivation
      obtain ⟨used, rfl, rightDerives⟩ := inner
      rw [standard_operator_arithmetic] at registered
      obtain ⟨rfl, -⟩ := Prod.mk.inj (Option.some.inj registered)
      have looser : power.rank < sign.power.rank := of_decide_eq_true binds
      have leftDerives := derivation.left_operand fits
      obtain ⟨whole, fitsBehind, wholeDerives⟩ : ∃ whole : Phrase, whole.Fits power middle.head? ∧
          Derives whole (front ++ .operator (.arithmetic sign) :: used)
            (.binary sign left right) := by
        cases additive : sign.isAdditive with
        | true =>
            rw [if_pos additive] at leftDerives
            have power_eq : sign.power = .additive := if_pos additive
            rw [power_eq] at rightDerives operand looser
            exact ⟨.sum, ⟨Nat.le_of_lt_succ looser, operand.stopped⟩,
              .sum additive leftDerives rightDerives⟩
        | false =>
            rw [if_neg (by simp [additive])] at leftDerives
            have power_eq : sign.power = .multiplicative := if_neg (by simp [additive])
            rw [power_eq] at rightDerives looser
            exact ⟨.term, Nat.le_of_lt_succ looser, .product additive leftDerives rightDerives⟩
      obtain ⟨more, rfl, derivation⟩ := induction whole _ fitsBehind wholeDerives
      exact ⟨.operator (.arithmetic sign) :: used ++ more, by simp, by simpa using derivation⟩
  | @assignment own name power behind value middle tree rest registered binds operand _ inner
      induction =>
      intro phrase front fits derivation
      obtain ⟨used, rfl, valueDerives⟩ := inner
      obtain ⟨rfl, -⟩ := Prod.mk.inj (Option.some.inj registered)
      have whole := Derives.assignment derivation.target_of_identifier valueDerives
      have fitsBehind : Phrase.expression.Fits power middle.head? :=
        ⟨of_decide_eq_true binds, operand.stopped⟩
      obtain ⟨more, rfl, derivation⟩ := induction .expression _ fitsBehind whole
      exact ⟨.operator .assign :: used ++ more, by simp, by simpa using derivation⟩

/-- Conversely, tokens that derive are read: behind them everything is read that is read behind
their tree. -/
theorem Derives.climbs {phrase : Phrase} {tokens : List Token} {tree : Expression}
    (derivation : Derives phrase tokens tree) {power : BindingPower} {behind rest : List Token}
    {whole : Expression} (fits : phrase.Fits power behind.head?)
    (continued : Climbs .standard (.operators tree power) behind whole rest) :
    Climbs .standard (.whole power) (tokens ++ behind) whole rest := by
  induction derivation generalizing power behind rest whole with
  | integer | real | name | targetName => exact .literal rfl rfl continued
  | ofSum _ induction =>
      exact induction ⟨fits.1, standard_continues_additive fits.2⟩ continued
  | ofTerm _ induction => exact induction (Nat.le_succ_of_le fits.1) continued
  | ofAtom _ induction => exact induction trivial continued
  | targetGroup _ induction =>
      simp only [List.cons_append, List.append_assoc]
      exact .group rfl (induction trivial (.stop rfl)) continued
  | group _ induction =>
      simp only [List.cons_append, List.append_assoc]
      exact .group rfl (induction ⟨Nat.zero_le _, rfl⟩ (.stop rfl)) continued
  | @sum sign left right leftTree rightTree additive _ _ leftInduction rightInduction =>
      have power_eq : sign.power = .additive := if_pos additive
      have operand : Climbs .standard (.whole sign.power) (right ++ behind) rightTree behind := by
        rw [power_eq]
        exact rightInduction (Nat.le_refl _) (.stop fits.2)
      rw [List.append_assoc, List.cons_append]
      have binds : (Operator.arithmetic sign).binds sign.power power = true := by
        rw [power_eq]
        exact decide_eq_true (Nat.lt_succ_of_le fits.1)
      exact leftInduction ⟨fits.1, by simp [power_eq]⟩
        (.binary (standard_operator_arithmetic sign) binds operand continued)
  | @product sign left right leftTree rightTree multiplicative _ _ leftInduction rightInduction =>
      have power_eq : sign.power = .multiplicative := if_neg (by simp [multiplicative])
      have operand : Climbs .standard (.whole sign.power) (right ++ behind) rightTree behind := by
        rw [power_eq]
        exact rightInduction trivial (.stop (standard_continues_multiplicative _))
      rw [List.append_assoc, List.cons_append]
      have binds : (Operator.arithmetic sign).binds sign.power power = true := by
        rw [power_eq]
        exact decide_eq_true (Nat.lt_succ_of_le fits)
      exact leftInduction fits
        (.binary (standard_operator_arithmetic sign) binds operand continued)
  | @assignment left right name value _ _ leftInduction rightInduction =>
      have operand : Climbs .standard (.whole .assignment) (right ++ behind) value behind :=
        rightInduction ⟨Nat.le_refl _, fits.2⟩ (.stop fits.2)
      rw [List.append_assoc, List.cons_append]
      exact leftInduction trivial (.assignment rfl (decide_eq_true fits.1) operand continued)

end Luso
