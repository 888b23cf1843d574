import Luso.Proofs.Syntax.Flattening
import Luso.Proofs.Syntax.Viability

/-!
# What is assigned to

An `=` that belongs to no declaration assigns to the sum in front of it, which must be a name.
Whether it is one can be told from the tokens: this sum is the longest one in front of the sign, since
groups are closed in it and no `=` stands outside of them.  In whatever the grammar derives, only names
are assigned to.
-/

namespace Luso

/-- The operand is the longest sum at the end of the tokens. -/
structure IsLeftOperand (front operand : List Token) : Prop where
  /-- The operand stands at the end. -/
  suffix : operand <:+ front
  /-- The operand is a sum, whatever it assigns to in groups. -/
  sum : Relaxed .sum operand
  /-- No longer sum stands there. -/
  longest : ∀ other, other <:+ front → Relaxed .sum other → other.length ≤ operand.length

/-- The tokens are a name, possibly in parentheses. -/
def IsTarget (tokens : List Token) : Prop :=
  ∃ name, Derives .target tokens (.identifier name)

/-- The tokens end with a declared name, so that an `=` behind them belongs to its declaration. -/
def EndsWithDeclared (tokens : List Token) : Prop :=
  ∃ type name, [.keyword (.declare type), .identifier name] <:+ tokens

/-- An `=` behind the tokens assigns to something that is no name. -/
def Misassigned (front : List Token) : Prop :=
  ¬ EndsWithDeclared front ∧ ∃ operand, IsLeftOperand front operand ∧ ¬ IsTarget operand

/-- The tokens are the beginning of an expression. -/
def BeginsExpression (tokens : List Token) : Prop :=
  ∃ rest, Relaxed .expression (tokens ++ rest)

/-- An `=` between the tokens assigns to something that is no name, and no other one does so in its
value, which goes on as long as the tokens behind it are the beginning of an expression. -/
structure InnermostMisassigned (front behind : List Token) : Prop where
  /-- What stands on the left is no name. -/
  misassigned : Misassigned front
  /-- In the value, only names are assigned to. -/
  valueFair : ∀ inside rest, behind = inside ++ .operator .assign :: rest →
    BeginsExpression (inside ++ [.operator .assign]) →
    ¬ Misassigned (front ++ .operator .assign :: inside)

/-- The `=` between the tokens assigns to something that is no name, no other one does so in its value,
and it is in the value of every one further left that does so. -/
structure IsRefused (before behind : List Token) : Prop
    extends InnermostMisassigned before behind where
  /-- What is between an `=` further left and this one is the beginning of an expression. -/
  enclosed : ∀ front between, before = front ++ .operator .assign :: between →
    Misassigned front → BeginsExpression (between ++ [.operator .assign])

/-! ## Parentheses -/

/-- How many more groups are opened than closed. -/
def nesting (tokens : List Token) : Int :=
  tokens.count (.punctuation .openParen) - tokens.count (.punctuation .closeParen)

@[simp]
theorem nesting_nil : nesting [] = 0 := rfl

@[simp]
theorem nesting_append (front rest : List Token) :
    nesting (front ++ rest) = nesting front + nesting rest := by
  simp only [nesting, List.count_append]
  omega

@[simp]
theorem nesting_operator_cons (sign : Operator) (rest : List Token) :
    nesting (.operator sign :: rest) = nesting rest := by
  simp [nesting]

@[simp]
theorem nesting_openParen_cons (rest : List Token) :
    nesting (.punctuation .openParen :: rest) = nesting rest + 1 := by
  simp [nesting]
  omega

@[simp]
theorem nesting_closeParen_cons (rest : List Token) :
    nesting (.punctuation .closeParen :: rest) = nesting rest - 1 := by
  simp [nesting]
  omega

/-- Where a list that is made of two parts around a token can be split at a token. -/
theorem append_cons_eq_append_cons_iff {α : Type} {left right front behind : List α}
    {separator token : α} :
    left ++ separator :: right = front ++ token :: behind ↔
      (∃ middle, left = front ++ token :: middle ∧ behind = middle ++ separator :: right) ∨
      (left = front ∧ separator = token ∧ right = behind) ∨
      ∃ middle, front = left ++ separator :: middle ∧ right = middle ++ token :: behind := by
  constructor
  · intro split
    rcases List.append_eq_append_iff.mp split with ⟨more, rfl, rest_eq⟩ | ⟨more, rfl, rest_eq⟩
    · cases more with
      | nil =>
          obtain ⟨rfl, rfl⟩ := List.cons.inj rest_eq
          exact .inr (.inl ⟨(List.append_nil _).symm, rfl, rfl⟩)
      | cons first more =>
          obtain ⟨rfl, rfl⟩ := List.cons.inj rest_eq
          exact .inr (.inr ⟨more, rfl, rfl⟩)
    · cases more with
      | nil =>
          obtain ⟨rfl, rfl⟩ := List.cons.inj rest_eq
          exact .inr (.inl ⟨List.append_nil _, rfl, rfl⟩)
      | cons first more =>
          obtain ⟨rfl, rfl⟩ := List.cons.inj rest_eq
          exact .inl ⟨more, rfl, rfl⟩
  · rintro (⟨middle, rfl, rfl⟩ | ⟨rfl, rfl, rfl⟩ | ⟨middle, rfl, rfl⟩) <;> simp

theorem eq_nil_of_singleton_eq {α : Type} {front behind : List α} {single token : α}
    (split : [single] = front ++ token :: behind) : front = [] ∧ behind = [] := by
  have length_eq : 1 = front.length + (behind.length + 1) := by
    simpa using congrArg List.length split
  exact ⟨List.length_eq_zero_iff.mp (by omega), List.length_eq_zero_iff.mp (by omega)⟩

/-- Where a group can be split at a token. -/
theorem split_group {contents front behind : List Token} {token : Token}
    (split : .punctuation .openParen :: contents ++ [.punctuation .closeParen] =
      front ++ token :: behind) :
    front = [] ∧ token = .punctuation .openParen ∨
      ∃ inner, front = .punctuation .openParen :: inner ∧
        ((∃ rest, contents = inner ++ token :: rest) ∨
          contents = inner ∧ token = .punctuation .closeParen) := by
  cases front with
  | nil => exact .inl ⟨rfl, (List.cons.inj split).1.symm⟩
  | cons first inner =>
      obtain ⟨rfl, contents_eq⟩ := List.cons.inj split
      refine .inr ⟨inner, rfl, ?_⟩
      rcases append_cons_eq_append_cons_iff.mp contents_eq with
        ⟨rest, inside, -⟩ | ⟨inside, close, -⟩ | ⟨_, -, nothing⟩
      · exact .inl ⟨rest, inside⟩
      · exact .inr ⟨inside, close.symm⟩
      · simp at nothing

namespace Relaxed

variable {phrase : Phrase} {tokens : List Token} {token : Token}

theorem nesting_eq_zero (derivation : Relaxed phrase tokens) : nesting tokens = 0 := by
  induction derivation with
  | assignment _ _ left right | sum _ _ _ left right | product _ _ _ left right =>
      simp [left, right]
  | ofSum _ same | target _ same | ofTerm _ same | ofAtom _ same => exact same
  | integer | real | name => rfl
  | group _ contents => simp [contents]

/-- No group is closed that was not opened. -/
theorem nesting_nonneg (derivation : Relaxed phrase tokens) {front behind : List Token}
    (split : tokens = front ++ token :: behind) : 0 ≤ nesting front := by
  induction derivation generalizing front behind with
  | assignment left _ inLeft inRight | sum _ left _ inLeft inRight
  | product _ left _ inLeft inRight =>
      rcases append_cons_eq_append_cons_iff.mp split with
        ⟨middle, left_eq, -⟩ | ⟨rfl, -, -⟩ | ⟨middle, rfl, right_eq⟩
      · exact inLeft left_eq
      · exact Int.le_of_eq left.nesting_eq_zero.symm
      · simpa [left.nesting_eq_zero] using inRight right_eq
  | ofSum _ same | target _ same | ofTerm _ same | ofAtom _ same => exact same split
  | integer | real | name =>
      obtain ⟨rfl, -⟩ := List.append_eq_singleton_iff.mp split.symm |>.resolve_right (by simp)
      exact Int.le_refl 0
  | group contents same =>
      rcases split_group split with ⟨rfl, -⟩ | ⟨inner, rfl, ⟨rest, inside⟩ | ⟨rfl, -⟩⟩
      · exact Int.le_refl 0
      · have := same inside
        simp
        omega
      · simp [contents.nesting_eq_zero]

/-- Sums assign inside of groups only. -/
theorem nesting_pos_of_assign (derivation : Relaxed phrase tokens) {front behind : List Token}
    (noExpression : phrase ≠ .expression) (split : tokens = front ++ .operator .assign :: behind) :
    0 < nesting front := by
  induction derivation generalizing front behind with
  | assignment | ofSum => exact absurd rfl noExpression
  | sum _ left _ inLeft inRight | product _ left _ inLeft inRight =>
      rcases append_cons_eq_append_cons_iff.mp split with
        ⟨middle, left_eq, -⟩ | ⟨-, ⟨⟩, -⟩ | ⟨middle, rfl, right_eq⟩
      · exact inLeft (by rintro ⟨⟩) left_eq
      · simpa [left.nesting_eq_zero] using inRight (by rintro ⟨⟩) right_eq
  | target _ same | ofTerm _ same | ofAtom _ same => exact same (by rintro ⟨⟩) split
  | integer | real | name => simp [List.singleton_eq_append_iff] at split
  | group contents _ =>
      rcases split_group split with ⟨-, ⟨⟩⟩ | ⟨inner, rfl, ⟨rest, inside⟩ | ⟨-, ⟨⟩⟩⟩
      have := contents.nesting_nonneg inside
      simp
      omega

/-- No statement starts or ends inside of a phrase. -/
theorem kind_ne_of_mem (derivation : Relaxed phrase tokens) (member : token ∈ tokens) :
    token.kind ≠ .keyword ∧ token ≠ .punctuation .terminator := by
  induction derivation with
  | assignment _ _ inLeft inRight | sum _ _ _ inLeft inRight | product _ _ _ inLeft inRight =>
      rcases List.mem_append.mp member with left | right
      · exact inLeft left
      · rcases List.mem_cons.mp right with rfl | right
        · exact ⟨by rintro ⟨⟩, by rintro ⟨⟩⟩
        · exact inRight right
  | ofSum _ same | target _ same | ofTerm _ same | ofAtom _ same => exact same member
  | integer | real | name =>
      obtain rfl := List.mem_singleton.mp member
      exact ⟨by rintro ⟨⟩, by rintro ⟨⟩⟩
  | group _ inside =>
      rcases List.mem_append.mp member with front | close
      · rcases List.mem_cons.mp front with rfl | contents
        · exact ⟨by rintro ⟨⟩, by rintro ⟨⟩⟩
        · exact inside contents
      · obtain rfl := List.mem_singleton.mp close
        exact ⟨by rintro ⟨⟩, by rintro ⟨⟩⟩

/-- What stands behind a whole expression and continues it is an operator. -/
theorem exists_operator_of_longer {rest : List Token} (whole : Relaxed .expression tokens)
    (longer : Relaxed .expression (tokens ++ token :: rest)) :
    ∃ sign, token = .operator sign := by
  have reached := longer.run_operand .tail 0
  rw [Stage.run_append, whole.run_operand .tail 0, Option.bind_some, Stage.run_cons] at reached
  obtain ⟨_, stepped, -⟩ := Option.bind_eq_some_iff.mp reached
  have noTerminator := (longer.kind_ne_of_mem (List.mem_append_right _ List.mem_cons_self)).2
  rcases token with _ | _ | _ | _ | sign | (_ | _ | _)
  case operator => exact ⟨sign, rfl⟩
  case punctuation.terminator => exact absurd rfl noTerminator
  all_goals cases stepped

end Relaxed

/-! ## Left operands -/

/-- The tokens are none, or a sum behind the last one starts there. -/
def EndsAtBoundary (tokens : List Token) : Prop :=
  ∀ last ∈ tokens.getLast?,
    last = .operator .assign ∨ last = .punctuation .openParen ∨ last = .punctuation .terminator

theorem endsAtBoundary_nil : EndsAtBoundary [] := by
  rintro _ ⟨⟩

theorem endsAtBoundary_concat {tokens : List Token} {last : Token} :
    EndsAtBoundary (tokens ++ [last]) ↔
      last = .operator .assign ∨ last = .punctuation .openParen ∨
        last = .punctuation .terminator := by
  simp [EndsAtBoundary]

theorem IsLeftOperand.unique {front operand other : List Token}
    (isOperand : IsLeftOperand front operand) (isOther : IsLeftOperand front other) :
    operand = other := by
  have shorter := isOther.longest operand isOperand.suffix isOperand.sum
  have longer := isOperand.longest other isOther.suffix isOther.sum
  have suffix := List.suffix_of_suffix_length_le isOperand.suffix isOther.suffix shorter
  exact suffix.eq_of_length (Nat.le_antisymm shorter longer)

/-- A sum does not go on in front of a boundary. -/
theorem Relaxed.not_boundary {more operand : List Token} {last : Token}
    (longer : Relaxed .sum (more ++ last :: operand)) (sum : Relaxed .sum operand) :
    ¬ EndsAtBoundary (more ++ [last]) := by
  rw [endsAtBoundary_concat]
  have total := longer.nesting_eq_zero
  rw [nesting_append] at total
  rintro (rfl | rfl | rfl)
  · have inGroup := longer.nesting_pos_of_assign (by rintro ⟨⟩) rfl
    rw [nesting_operator_cons, sum.nesting_eq_zero] at total
    omega
  · have opened := longer.nesting_nonneg rfl
    rw [nesting_openParen_cons, sum.nesting_eq_zero] at total
    omega
  · exact (longer.kind_ne_of_mem (List.mem_append_right _ List.mem_cons_self)).2 rfl

theorem isLeftOperand_of_boundary {read operand : List Token} (boundary : EndsAtBoundary read)
    (sum : Relaxed .sum operand) : IsLeftOperand (read ++ operand) operand where
  suffix := List.suffix_append read operand
  sum := sum
  longest := by
    intro other suffix otherSum
    by_contra longer
    obtain ⟨more, rfl⟩ := List.suffix_of_suffix_length_le (List.suffix_append read operand) suffix
      (Nat.le_of_not_le longer)
    obtain ⟨front, read_eq⟩ := suffix
    rw [← List.append_assoc, List.append_cancel_right_eq] at read_eq
    rcases List.eq_nil_or_concat' more with rfl | ⟨init, last, rfl⟩
    · exact longer (Nat.le_refl _)
    · rw [List.append_assoc] at otherSum
      refine otherSum.not_boundary sum ?_
      rw [← read_eq, ← List.append_assoc, endsAtBoundary_concat] at boundary
      exact endsAtBoundary_concat.mpr boundary

/-- In a derived phrase only names are assigned to.  Where an expression is derived, its first sum must
start there. -/
theorem Derives.not_misassigned {phrase : Phrase} {tokens : List Token} {tree : Expression}
    (derivation : Derives phrase tokens tree) {read front behind : List Token}
    (boundary : phrase = .expression → EndsAtBoundary read)
    (split : tokens = front ++ .operator .assign :: behind) : ¬ Misassigned (read ++ front) := by
  induction derivation generalizing read front behind with
  | @assignment left right name value target _ inTarget inValue =>
      rcases append_cons_eq_append_cons_iff.mp split with
        ⟨middle, target_eq, -⟩ | ⟨rfl, -, -⟩ | ⟨middle, rfl, value_eq⟩
      · exact inTarget (by rintro ⟨⟩) target_eq
      · rintro ⟨-, operand, isOperand, noTarget⟩
        have isLeft := isLeftOperand_of_boundary (boundary rfl) target.relaxed.sum_of_target
        obtain rfl := isOperand.unique isLeft
        exact noTarget ⟨name, target⟩
      · have fair : ¬ Misassigned (read ++ left ++ [.operator .assign] ++ middle) :=
          inValue (fun _ => endsAtBoundary_concat.mpr (.inl rfl)) value_eq
        simpa using fair
  | @sum sign left _ _ _ _ _ _ inLeft inRight | @product sign left _ _ _ _ _ _ inLeft inRight =>
      rcases append_cons_eq_append_cons_iff.mp split with
        ⟨middle, left_eq, -⟩ | ⟨-, ⟨⟩, -⟩ | ⟨middle, rfl, right_eq⟩
      · exact inLeft (by rintro ⟨⟩) left_eq
      · have fair : ¬ Misassigned (read ++ left ++ [.operator (.arithmetic sign)] ++ middle) :=
          inRight (by rintro ⟨⟩) right_eq
        simpa using fair
  | ofSum _ same | ofTerm _ same | ofAtom _ same => exact same (by rintro ⟨⟩) split
  | integer | real | name | targetName => simp [List.singleton_eq_append_iff] at split
  | targetGroup _ same =>
      rcases split_group split with ⟨-, ⟨⟩⟩ | ⟨inner, rfl, ⟨rest, inside⟩ | ⟨-, ⟨⟩⟩⟩
      have fair : ¬ Misassigned (read ++ [.punctuation .openParen] ++ inner) :=
        same (by rintro ⟨⟩) inside
      simpa using fair
  | group _ same =>
      rcases split_group split with ⟨-, ⟨⟩⟩ | ⟨inner, rfl, ⟨rest, inside⟩ | ⟨-, ⟨⟩⟩⟩
      have fair : ¬ Misassigned (read ++ [.punctuation .openParen] ++ inner) :=
        same (fun _ => endsAtBoundary_concat.mpr (.inr (.inl rfl))) inside
      simpa using fair

/-! ## Beginnings of expressions -/

/-- A phrase stands for an operand. -/
theorem AwaitsOperand.append {phrase : Phrase} {tokens : List Token}
    (derivation : Relaxed phrase tokens) {depth : Nat} {behind : List Token}
    (awaits : AwaitsOperand depth behind) : OpenExpression depth (behind ++ tokens) := by
  induction derivation generalizing behind with
  | assignment _ _ left right =>
      simpa using right ((left awaits).awaitsOperand .assign)
  | @sum sign _ _ _ _ _ left right | @product sign _ _ _ _ _ left right =>
      simpa using right ((left awaits).awaitsOperand (.arithmetic sign))
  | ofSum _ same | target _ same | ofTerm _ same | ofAtom _ same => exact same awaits
  | integer value => exact awaits _ (.integer value)
  | real value => exact awaits _ (.real value)
  | name name => exact awaits _ (.name name)
  | group contents _ => exact awaits _ (.group contents)

theorem OpenExpression.begins {depth : Nat} {tokens : List Token}
    (opened : OpenExpression depth tokens) : BeginsExpression tokens := by
  induction depth generalizing tokens with
  | zero => exact ⟨[], by rw [List.append_nil]; exact opened⟩
  | succ depth induction =>
      obtain ⟨rest, whole⟩ := induction opened.closeGroup
      exact ⟨.punctuation .closeParen :: rest, by simpa using whole⟩

theorem AwaitsOperand.begins {depth : Nat} {tokens : List Token}
    (awaits : AwaitsOperand depth tokens) : BeginsExpression tokens := by
  obtain ⟨rest, whole⟩ := (awaits _ (.integer 0)).begins
  exact ⟨.integer 0 :: rest, by simpa using whole⟩

/-! ## Values that are being read -/

/-- What follows every `=` in the tokens that assigns to something that is no name. -/
def Pending (holds : List Token → Prop) (read : List Token) : Prop :=
  ∀ front behind, read = front ++ .operator .assign :: behind → Misassigned front → holds behind

/-- Only names are assigned to. -/
def Fair (read : List Token) : Prop :=
  Pending (fun _ => False) read

/-- Every value of something that is no name is still read, and an operand is missing. -/
def AllAwait (read : List Token) : Prop :=
  Pending (fun behind => ∃ depth, AwaitsOperand depth behind) read

/-- Every value of something that is no name is still read, and it may go on. -/
def AllOpen (read : List Token) : Prop :=
  Pending (fun behind => ∃ depth, OpenExpression depth behind) read

section Pending

variable {read tokens : List Token}

theorem Pending.append {holds holdsBehind : List Token → Prop} (pending : Pending holds read)
    (goesOn : ∀ behind, holds behind → holdsBehind (behind ++ tokens))
    (own : ∀ front behind, tokens = front ++ .operator .assign :: behind →
      Misassigned (read ++ front) → holdsBehind behind) :
    Pending holdsBehind (read ++ tokens) := by
  intro front behind split misassigned
  rcases List.append_eq_append_iff.mp split with ⟨more, rfl, tokens_eq⟩ | ⟨more, rfl, rest_eq⟩
  · exact own more behind tokens_eq misassigned
  · cases more with
    | nil =>
        refine own [] behind rest_eq.symm ?_
        rwa [List.append_nil, List.append_nil]
    | cons first more =>
        obtain ⟨rfl, rfl⟩ := List.cons.inj rest_eq
        exact goesOn more (pending front more rfl misassigned)

theorem Fair.append (fair : Fair read)
    (own : ∀ front behind, tokens = front ++ .operator .assign :: behind →
      ¬ Misassigned (read ++ front)) : Fair (read ++ tokens) :=
  Pending.append fair (fun _ => False.elim) own

theorem Fair.allAwait (fair : Fair read) : AllAwait read :=
  fun front behind split misassigned => (fair front behind split misassigned).elim

/-- No assignment to anything but a name is derived, and so the values around it only go on. -/
theorem AllAwait.append_derived {phrase : Phrase} {tree : Expression} (awaits : AllAwait read)
    (derivation : Derives phrase tokens tree)
    (boundary : phrase = .expression → EndsAtBoundary read) : AllOpen (read ++ tokens) := by
  refine Pending.append awaits ?_ fun front behind split misassigned => ?_
  · rintro behind ⟨depth, operand⟩
    exact ⟨depth, operand.append derivation.relaxed⟩
  · exact absurd misassigned (derivation.not_misassigned boundary split)

theorem AllAwait.append_openParen (awaits : AllAwait read) :
    AllAwait (read ++ [.punctuation .openParen]) := by
  refine Pending.append awaits ?_ fun front behind split _ => ?_
  · rintro behind ⟨depth, operand⟩
    exact ⟨depth + 1, operand.openGroup⟩
  · simp [List.singleton_eq_append_iff] at split

/-- The value of an `=` itself starts behind it. -/
theorem AllOpen.append_operator (opened : AllOpen read) (sign : Operator) :
    AllAwait (read ++ [.operator sign]) := by
  refine Pending.append opened ?_ fun front behind split _ => ?_
  · rintro behind ⟨depth, value⟩
    exact ⟨depth, value.awaitsOperand sign⟩
  · obtain ⟨-, rfl⟩ := eq_nil_of_singleton_eq split
    exact ⟨0, awaitsOperand_nil⟩

theorem Fair.append_derived {phrase : Phrase} {tree : Expression} (fair : Fair read)
    (derivation : Derives phrase tokens tree)
    (boundary : phrase = .expression → EndsAtBoundary read) : Fair (read ++ tokens) :=
  fair.append fun _ _ split => derivation.not_misassigned boundary split

theorem Fair.append_plain (fair : Fair read) (plain : .operator .assign ∉ tokens) :
    Fair (read ++ tokens) :=
  fair.append fun front behind split => absurd (by simp [split]) plain

/-- The sign of a declaration assigns to nothing. -/
theorem Fair.append_assign (fair : Fair read) (declared : EndsWithDeclared read) :
    Fair (read ++ [.operator .assign]) := by
  refine fair.append fun front behind split misassigned => misassigned.1 ?_
  obtain ⟨rfl, -⟩ := eq_nil_of_singleton_eq split
  rwa [List.append_nil]

theorem Fair.append_declaration (fair : Fair read) (type : DataType) (name : String) :
    Fair (read ++ [.keyword (.declare type)] ++ [.identifier name] ++ [.operator .assign]) := by
  have named : Fair (read ++ [.keyword (.declare type)] ++ [.identifier name]) :=
    (fair.append_plain (by simp)).append_plain (by simp)
  exact named.append_assign ⟨type, name, read, by simp⟩

theorem Fair.append_printing (fair : Fair read) :
    Fair (read ++ [.keyword .print] ++ [.punctuation .openParen]) :=
  (fair.append_plain (by simp)).append_plain (by simp)

end Pending

/-- In a statement only names are assigned to. -/
theorem DerivesStatement.fair {tokens read : List Token} {statement : Statement}
    (derivation : DerivesStatement tokens statement) (fair : Fair read)
    (boundary : EndsAtBoundary read) : Fair (read ++ tokens) := by
  cases derivation with
  | bare type name => exact fair.append_plain (by simp)
  | initialised type name value =>
      have initial := (fair.append_declaration type name).append_derived value
        fun _ => endsAtBoundary_concat.mpr (.inl rfl)
      simpa using initial
  | print argument =>
      have contents := fair.append_printing.append_derived argument
        fun _ => endsAtBoundary_concat.mpr (.inr (.inl rfl))
      have closed : Fair (_ ++ [.punctuation .closeParen]) := contents.append_plain (by simp)
      simpa using closed
  | expression value => exact fair.append_derived value fun _ => boundary

/-! ## Names -/

theorem Expression.eq_identifier_of_flatten {tree : Expression} {name : String}
    (flatten_eq : tree.flatten = [.identifier name]) : tree = .identifier name := by
  cases tree with
  | integer | real => cases flatten_eq
  | identifier =>
      cases flatten_eq
      rfl
  | binary operation left right => simp [flatten, List.append_eq_singleton_iff] at flatten_eq
  | assignment => cases flatten_eq

/-- A sum is not what a declaration ends with, unless it is a name itself. -/
theorem Relaxed.not_endsWithDeclared {read operand : List Token} (sum : Relaxed .sum operand)
    (noName : ∀ name, operand ≠ [.identifier name]) : ¬ EndsWithDeclared (read ++ operand) := by
  rintro ⟨type, name, front, tokens_eq⟩
  rcases List.eq_nil_or_concat' operand with rfl | ⟨init, last, rfl⟩
  · cases sum.run_operand .tail 0
  · rw [← List.append_assoc, List.append_cons] at tokens_eq
    obtain ⟨front_eq, last_eq⟩ := List.append_inj' tokens_eq rfl
    obtain ⟨rfl⟩ := last_eq
    rcases List.eq_nil_or_concat' init with rfl | ⟨more, first, rfl⟩
    · exact noName name rfl
    · rw [← List.append_assoc] at front_eq
      obtain ⟨-, first_eq⟩ := List.append_inj' front_eq rfl
      obtain ⟨rfl⟩ := first_eq
      have member : .keyword (.declare type) ∈
          more ++ [.keyword (.declare type)] ++ [.identifier name] := by
        simp
      exact (sum.kind_ne_of_mem member).1 rfl

/-- If the tree of a sum is no name, then the sum is none. -/
theorem misassigned_of_tree {read operand : List Token} {tree : Expression}
    (boundary : EndsAtBoundary read) (sum : Relaxed .sum operand)
    (kept : tree.flatten = operand.filter Token.isKept)
    (noName : ∀ name, tree ≠ .identifier name) : Misassigned (read ++ operand) := by
  refine ⟨sum.not_endsWithDeclared ?_, operand, isLeftOperand_of_boundary boundary sum, ?_⟩
  · rintro name rfl
    exact noName name (Expression.eq_identifier_of_flatten kept)
  · rintro ⟨name, target⟩
    exact noName name (Expression.eq_identifier_of_flatten (kept.trans target.flatten_eq.symm))

/-! ## The refused assignment -/

/-- None further left is innermost. -/
theorem IsRefused.leftmost {before behind front between : List Token}
    (refused : IsRefused before behind) (before_eq : before = front ++ .operator .assign :: between) :
    ¬ InnermostMisassigned front (between ++ .operator .assign :: behind) := by
  intro innermost
  have inValue := refused.enclosed front between before_eq innermost.misassigned
  refine innermost.valueFair between behind rfl inValue ?_
  rw [← before_eq]
  exact refused.misassigned

/-- If an expression is read as the value of something that is no name, while whatever else assigns to
no name still waits for its value, then this is refused. -/
theorem isRefused_of_value {read operand value rest : List Token} {tree valueTree : Expression}
    (boundary : EndsAtBoundary read) (sum : Relaxed .sum operand)
    (kept : tree.flatten = operand.filter Token.isKept)
    (noName : ∀ name, tree ≠ .identifier name) (allOpen : AllOpen (read ++ operand))
    (derivation : Derives .expression value valueTree)
    (ends : NoOperator rest) : IsRefused (read ++ operand) (value ++ rest) where
  misassigned := misassigned_of_tree boundary sum kept noName
  valueFair := by
    rintro inside behind split ⟨more, begun⟩
    rcases List.append_eq_append_iff.mp split with
      ⟨_ | ⟨first, others⟩, rfl, rest_eq⟩ | ⟨_ | ⟨first, others⟩, rfl, rest_eq⟩
    -- Behind the value no operator stands, so what begins an expression ends with the value.
    · exact (ends .assign (congrArg List.head? rest_eq)).elim
    · have longer : Relaxed .expression (value ++ first :: (others ++ .operator .assign :: more)) := by
        simpa using begun
      obtain ⟨sign, rfl⟩ := derivation.relaxed.exists_operator_of_longer longer
      exact (ends sign (congrArg List.head? rest_eq)).elim
    · exact (ends .assign (congrArg List.head? rest_eq.symm)).elim
    · obtain ⟨rfl, -⟩ := List.cons.inj rest_eq
      have fair : ¬ Misassigned (read ++ operand ++ [.operator .assign] ++ inside) :=
        derivation.not_misassigned (fun _ => endsAtBoundary_concat.mpr (.inl rfl)) rfl
      simpa using fair
  enclosed := by
    intro front between split misassigned
    obtain ⟨depth, opened⟩ := allOpen front between split misassigned
    exact (opened.awaitsOperand .assign).begins

end Luso
