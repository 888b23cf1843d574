import Luso.Proofs.Syntax.Derivation

/-!
# Beginnings of programs

The grammar of programs is relaxed here: any sum may stand on the left of an assignment.  A list of
tokens is viable if it is the beginning of a program in this sense.  Viable lists are recognised token
by token: it suffices to know in which construct the last token stands and how many groups are open.
-/

namespace Luso

/-- The tokens derive a phrase if every sum may be assigned to. -/
inductive Relaxed : Phrase → List Token → Prop where
  | assignment {left right} :
      Relaxed .target left → Relaxed .expression right →
      Relaxed .expression (left ++ .operator .assign :: right)
  | ofSum {tokens} : Relaxed .sum tokens → Relaxed .expression tokens
  | target {tokens} : Relaxed .sum tokens → Relaxed .target tokens
  | sum {sign left right} :
      sign.isAdditive = true → Relaxed .sum left → Relaxed .term right →
      Relaxed .sum (left ++ .operator (.arithmetic sign) :: right)
  | ofTerm {tokens} : Relaxed .term tokens → Relaxed .sum tokens
  | product {sign left right} :
      sign.isAdditive = false → Relaxed .term left → Relaxed .atom right →
      Relaxed .term (left ++ .operator (.arithmetic sign) :: right)
  | ofAtom {tokens} : Relaxed .atom tokens → Relaxed .term tokens
  | integer (value) : Relaxed .atom [.integer value]
  | real (value) : Relaxed .atom [.decimal value]
  | name (name) : Relaxed .atom [.identifier name]
  | group {tokens} :
      Relaxed .expression tokens →
      Relaxed .atom (.punctuation .openParen :: tokens ++ [.punctuation .closeParen])

/-- The tokens derive a statement, which is or is not a declaration without a first value. -/
inductive RelaxedStatement : Bool → List Token → Prop where
  | bare (type name) : RelaxedStatement true [.keyword (.declare type), .identifier name]
  | initialised (type name) {tokens} :
      Relaxed .expression tokens →
      RelaxedStatement false
        (.keyword (.declare type) :: .identifier name :: .operator .assign :: tokens)
  | print {tokens} :
      Relaxed .expression tokens →
      RelaxedStatement false
        (.keyword .print :: .punctuation .openParen :: tokens ++ [.punctuation .closeParen])
  | expression {tokens} : Relaxed .expression tokens → RelaxedStatement false tokens

/-- The tokens derive a program. -/
inductive RelaxedProgram : List Token → Prop where
  | nil : RelaxedProgram []
  | last {tokens} : RelaxedStatement false tokens → RelaxedProgram tokens
  | cons {bare tokens rest} :
      RelaxedStatement bare tokens → RelaxedProgram rest →
      RelaxedProgram (tokens ++ .punctuation .terminator :: rest)

/-- The tokens are the beginning of a program. -/
def Viable (tokens : List Token) : Prop :=
  ∃ rest, RelaxedProgram (tokens ++ rest)

/-! ## The relaxed grammar -/

theorem Relaxed.sum_of_target {tokens : List Token} (derivation : Relaxed .target tokens) :
    Relaxed .sum tokens := by
  cases derivation with
  | target sum => exact sum

/-- The relaxed grammar derives all that the grammar derives. -/
theorem Derives.relaxed {phrase : Phrase} {tokens : List Token} {tree : Expression}
    (derivation : Derives phrase tokens tree) : Relaxed phrase tokens := by
  induction derivation with
  | assignment _ _ target value => exact .assignment target value
  | ofSum _ sum => exact .ofSum sum
  | targetName name => exact .target (.ofTerm (.ofAtom (.name name)))
  | targetGroup _ target => exact .target (.ofTerm (.ofAtom (.group (.ofSum target.sum_of_target))))
  | sum additive _ _ left right => exact .sum additive left right
  | ofTerm _ term => exact .ofTerm term
  | product multiplicative _ _ left right => exact .product multiplicative left right
  | ofAtom _ atom => exact .ofAtom atom
  | integer value => exact .integer value
  | real value => exact .real value
  | name name => exact .name name
  | group _ value => exact .group value

theorem DerivesStatement.relaxed {tokens : List Token} {statement : Statement}
    (derivation : DerivesStatement tokens statement) :
    RelaxedStatement statement.isBare tokens := by
  cases derivation with
  | bare type name => exact .bare type name
  | initialised type name value => exact .initialised type name value.relaxed
  | print argument => exact .print argument.relaxed
  | expression value => exact .expression value.relaxed

theorem DerivesProgram.relaxed {tokens : List Token} {program : Program}
    (derivation : DerivesProgram tokens program) : RelaxedProgram tokens := by
  induction derivation with
  | nil => exact .nil
  | last statement notBare => exact .last (notBare ▸ statement.relaxed)
  | cons statement _ rest => exact .cons statement.relaxed rest

namespace Relaxed

variable {left atom : List Token}

theorem sum_extend (sign : Arithmetic) (sum : Relaxed .sum left) (operand : Relaxed .atom atom) :
    Relaxed .sum (left ++ .operator (.arithmetic sign) :: atom) := by
  cases additive : sign.isAdditive with
  | true => exact .sum additive sum (.ofAtom operand)
  | false =>
      cases sum with
      | sum first front last =>
          rw [List.append_assoc]
          exact .sum first front (.product additive last operand)
      | ofTerm term => exact .ofTerm (.product additive term operand)

/-- Whatever the operators of an expression are, it can go on with any operator and one atom. -/
theorem extend (sign : Operator) (whole : Relaxed .expression left)
    (operand : Relaxed .atom atom) : Relaxed .expression (left ++ .operator sign :: atom) := by
  generalize phrase_eq : Phrase.expression = phrase at whole
  induction whole with
  | assignment target _ _ value =>
      rw [List.append_assoc]
      exact .assignment target (value rfl)
  | ofSum sum =>
      cases sign with
      | arithmetic sign => exact .ofSum (sum.sum_extend sign operand)
      | assign => exact .assignment (.target sum) (.ofSum (.ofTerm (.ofAtom operand)))
  | _ => cases phrase_eq

end Relaxed

/-! ## Stages -/

/-- What an expression belongs to. -/
inductive Setting where
  /-- A statement that ends with it. -/
  | tail
  /-- A print statement, which goes on behind its argument. -/
  | argument
deriving DecidableEq

/-- What the last token of a beginning stands in. -/
inductive Stage where
  /-- A statement starts. -/
  | start
  /-- A declaration has started; the name is missing. -/
  | declaring
  /-- A name is declared; it may get a value. -/
  | named
  /-- A print statement has started. -/
  | printing
  /-- An operand is missing in an expression, inside so many groups. -/
  | operand (setting : Setting) (depth : Nat)
  /-- An expression may go on or end, inside so many groups. -/
  | operator (setting : Setting) (depth : Nat)
  /-- The argument of a print statement is closed. -/
  | closed
deriving DecidableEq

namespace Stage

/-- The stage behind a token that starts an operand. -/
def behindOperand (setting : Setting) (depth : Nat) : Token → Option Stage
  | .integer _ | .decimal _ | .identifier _ => some (.operator setting depth)
  | .punctuation .openParen => some (.operand setting (depth + 1))
  | _ => none

/-- The stage behind a closing parenthesis. -/
def behindClose : Setting → Nat → Option Stage
  | setting, depth + 1 => some (.operator setting depth)
  | .argument, 0 => some .closed
  | .tail, 0 => none

/-- The stage behind one more token; none if no program goes on with it. -/
def step : Stage → Token → Option Stage
  | .start, .keyword (.declare _) => some .declaring
  | .start, .keyword .print => some .printing
  | .start, token => behindOperand .tail 0 token
  | .declaring, .identifier _ => some .named
  | .named, .operator .assign => some (.operand .tail 0)
  | .named, .punctuation .terminator => some .start
  | .printing, .punctuation .openParen => some (.operand .argument 0)
  | .operand setting depth, token => behindOperand setting depth token
  | .operator setting depth, .operator _ => some (.operand setting depth)
  | .operator setting depth, .punctuation .closeParen => behindClose setting depth
  | .operator .tail 0, .punctuation .terminator => some .start
  | .closed, .punctuation .terminator => some .start
  | _, _ => none

/-- The stage behind some more tokens. -/
def run (stage : Stage) (tokens : List Token) : Option Stage :=
  tokens.foldlM step stage

/-- Whether a program may end. -/
def isFinal : Stage → Bool
  | .start | .operator .tail 0 | .closed => true
  | _ => false

@[simp]
theorem run_nil (stage : Stage) : stage.run [] = some stage := rfl

@[simp]
theorem run_cons (stage : Stage) (token : Token) (rest : List Token) :
    stage.run (token :: rest) = (stage.step token).bind (·.run rest) := rfl

@[simp]
theorem run_append (stage : Stage) (front rest : List Token) :
    stage.run (front ++ rest) = (stage.run front).bind (·.run rest) :=
  List.foldlM_append

@[simp]
theorem step_operand (setting : Setting) (depth : Nat) (token : Token) :
    (operand setting depth).step token = behindOperand setting depth token := rfl

@[simp]
theorem step_operator_operator (setting : Setting) (depth : Nat) (sign : Operator) :
    (operator setting depth).step (.operator sign) = some (.operand setting depth) := rfl

@[simp]
theorem step_operator_closeParen (setting : Setting) (depth : Nat) :
    (operator setting depth).step (.punctuation .closeParen) = behindClose setting depth := rfl

@[simp]
theorem behindOperand_openParen (setting : Setting) (depth : Nat) :
    behindOperand setting depth (.punctuation .openParen) =
      some (.operand setting (depth + 1)) := rfl

@[simp]
theorem behindClose_succ (setting : Setting) (depth : Nat) :
    behindClose setting (depth + 1) = some (.operator setting depth) := rfl

/-- What starts an operand may also start a statement. -/
theorem run_start_of_operand {tokens : List Token} {depth : Nat}
    (read : (operand .tail 0).run tokens = some (.operator .tail depth)) :
    start.run tokens = some (.operator .tail depth) := by
  cases tokens with
  | nil => cases read
  | cons first rest =>
      rw [run_cons] at read ⊢
      cases first with
      | keyword => cases read
      | _ => exact read

end Stage

/-! ## Programs pass through the stages -/

theorem Relaxed.run_operand {phrase : Phrase} {tokens : List Token}
    (derivation : Relaxed phrase tokens) (setting : Setting) (depth : Nat) :
    (Stage.operand setting depth).run tokens = some (.operator setting depth) := by
  induction derivation generalizing depth with
  | assignment _ _ left right | sum _ _ _ left right | product _ _ _ left right =>
      simp [left, right]
  | ofSum _ same | target _ same | ofTerm _ same | ofAtom _ same => exact same depth
  | integer | real | name => rfl
  | group _ contents => simp [contents]

theorem RelaxedStatement.run_start {bare : Bool} {tokens : List Token}
    (derivation : RelaxedStatement bare tokens) :
    ∃ stage, Stage.start.run tokens = some stage ∧
      stage.step (.punctuation .terminator) = some .start ∧
      (bare = false → stage.isFinal = true) := by
  cases derivation with
  | bare type name => exact ⟨.named, rfl, rfl, by rintro ⟨⟩⟩
  | initialised type name value =>
      exact ⟨.operator .tail 0, by simp [Stage.step, value.run_operand], rfl, fun _ => rfl⟩
  | print argument =>
      exact ⟨.closed, by simp [Stage.step, argument.run_operand, Stage.behindClose], rfl,
        fun _ => rfl⟩
  | expression value =>
      exact ⟨.operator .tail 0, Stage.run_start_of_operand (value.run_operand .tail 0), rfl,
        fun _ => rfl⟩

theorem RelaxedProgram.run_start {tokens : List Token} (derivation : RelaxedProgram tokens) :
    ∃ stage, Stage.start.run tokens = some stage ∧ stage.isFinal = true := by
  induction derivation with
  | nil => exact ⟨.start, rfl, rfl⟩
  | last statement =>
      obtain ⟨stage, reached, -, ends⟩ := statement.run_start
      exact ⟨stage, reached, ends rfl⟩
  | cons statement _ others =>
      obtain ⟨stage, reached, terminated, -⟩ := statement.run_start
      obtain ⟨last, reachedLast, ends⟩ := others
      exact ⟨last, by simp [reached, terminated, reachedLast], ends⟩

/-! ## Every stage is the stage of a beginning -/

/-- An expression is read up to behind an operand, inside so many open groups: what has been read of
each group is an expression, and closing it gives an operand of the text around it. -/
def OpenExpression : Nat → List Token → Prop
  | 0, tokens => Relaxed .expression tokens
  | depth + 1, tokens => ∃ outside inside, tokens = outside ++ .punctuation .openParen :: inside ∧
      Relaxed .expression inside ∧
      ∀ atom, Relaxed .atom atom → OpenExpression depth (outside ++ atom)

/-- An expression is read up to where an operand is missing. -/
def AwaitsOperand (depth : Nat) (tokens : List Token) : Prop :=
  ∀ atom, Relaxed .atom atom → OpenExpression depth (tokens ++ atom)

theorem awaitsOperand_nil : AwaitsOperand 0 [] :=
  fun _ operand => .ofSum (.ofTerm (.ofAtom operand))

theorem OpenExpression.awaitsOperand {depth : Nat} {tokens : List Token}
    (opened : OpenExpression depth tokens) (sign : Operator) :
    AwaitsOperand depth (tokens ++ [.operator sign]) := by
  intro atom operand
  rw [List.append_assoc, List.singleton_append]
  cases depth with
  | zero => exact Relaxed.extend sign opened operand
  | succ depth =>
      obtain ⟨outside, inside, rfl, value, around⟩ := opened
      exact ⟨outside, inside ++ .operator sign :: atom, by simp, value.extend sign operand, around⟩

theorem AwaitsOperand.openGroup {depth : Nat} {tokens : List Token}
    (awaits : AwaitsOperand depth tokens) :
    AwaitsOperand (depth + 1) (tokens ++ [.punctuation .openParen]) :=
  fun atom operand => ⟨tokens, atom, by simp, .ofSum (.ofTerm (.ofAtom operand)), awaits⟩

theorem OpenExpression.closeGroup {depth : Nat} {tokens : List Token}
    (opened : OpenExpression (depth + 1) tokens) :
    OpenExpression depth (tokens ++ [.punctuation .closeParen]) := by
  obtain ⟨outside, inside, rfl, value, around⟩ := opened
  simpa using around _ (.group value)

/-- The tokens in front of an expression make a statement with it. -/
def Setting.Precedes (front : List Token) : Setting → Prop
  | .tail => ∀ value, Relaxed .expression value → RelaxedStatement false (front ++ value)
  | .argument => ∀ value, Relaxed .expression value →
      RelaxedStatement false (front ++ value ++ [.punctuation .closeParen])

/-- A statement can be read up to a stage with the given tokens. -/
def Stage.Holds (tokens : List Token) : Stage → Prop
  | .start => tokens = []
  | .declaring => ∃ type, tokens = [.keyword (.declare type)]
  | .named => ∃ type name, tokens = [.keyword (.declare type), .identifier name]
  | .printing => tokens = [.keyword .print]
  | .operand setting depth =>
      ∃ front rest, tokens = front ++ rest ∧ setting.Precedes front ∧ AwaitsOperand depth rest
  | .operator setting depth =>
      ∃ front rest, tokens = front ++ rest ∧ setting.Precedes front ∧ OpenExpression depth rest
  | .closed => RelaxedStatement false tokens

/-- A program can be read up to a stage with the given tokens. -/
def Stage.Begun (stage : Stage) (tokens : List Token) : Prop :=
  ∃ ended current, tokens = ended ++ current ∧
    (∀ rest, RelaxedProgram rest → RelaxedProgram (ended ++ rest)) ∧ stage.Holds current

namespace Stage

variable {setting : Setting} {depth : Nat} {front rest tokens : List Token} {token : Token}
  {stage next : Stage}

theorem holds_behindOperand (precedes : setting.Precedes front) (awaits : AwaitsOperand depth rest)
    (stepped : behindOperand setting depth token = some next) :
    next.Holds (front ++ rest ++ [token]) := by
  have behind (operand : Relaxed .atom [token]) :
      (operator setting depth).Holds (front ++ rest ++ [token]) :=
    ⟨front, rest ++ [token], List.append_assoc _ _ _, precedes, awaits _ operand⟩
  rcases token with _ | name | value | value | _ | (_ | _ | _) <;> cases stepped
  case identifier => exact behind (.name name)
  case integer => exact behind (.integer value)
  case decimal => exact behind (.real value)
  case punctuation.openParen =>
    exact ⟨front, _, List.append_assoc _ _ _, precedes, awaits.openGroup⟩

theorem holds_behindClose (precedes : setting.Precedes front)
    (opened : OpenExpression depth rest) (stepped : behindClose setting depth = some next) :
    next.Holds (front ++ rest ++ [.punctuation .closeParen]) := by
  cases depth with
  | succ depth =>
      cases stepped
      exact ⟨front, _, List.append_assoc _ _ _, precedes, opened.closeGroup⟩
  | zero =>
      cases setting with
      | tail => cases stepped
      | argument =>
          cases stepped
          exact precedes rest opened

/-- A terminator ends a statement, and the next one starts. -/
theorem begun_start {bare : Bool} {ended current : List Token}
    (carried : ∀ rest, RelaxedProgram rest → RelaxedProgram (ended ++ rest))
    (statement : RelaxedStatement bare current) :
    start.Begun (ended ++ current ++ [.punctuation .terminator]) := by
  refine ⟨_, [], (List.append_nil _).symm, fun rest program => ?_, rfl⟩
  simpa using carried _ (.cons statement program)

theorem begun_step (begun : stage.Begun tokens) (stepped : stage.step token = some next) :
    next.Begun (tokens ++ [token]) := by
  obtain ⟨ended, current, rfl, carried, holds⟩ := begun
  have goOn (holds : next.Holds (current ++ [token])) : next.Begun (ended ++ current ++ [token]) :=
    ⟨ended, _, List.append_assoc _ _ _, carried, holds⟩
  -- One case for each line of `step`; only a terminator ends the current statement.
  rw [step.eq_def] at stepped
  split at stepped
  · rename_i type
    cases stepped
    obtain rfl := holds
    exact goOn ⟨type, rfl⟩
  · cases stepped
    obtain rfl := holds
    exact goOn rfl
  · obtain rfl := holds
    have precedes : Setting.tail.Precedes [] := fun _ value => .expression value
    exact goOn (holds_behindOperand precedes awaitsOperand_nil stepped)
  · rename_i name
    cases stepped
    obtain ⟨type, rfl⟩ := holds
    exact goOn ⟨type, name, rfl⟩
  · cases stepped
    obtain ⟨type, name, rfl⟩ := holds
    have precedes : Setting.tail.Precedes
        [.keyword (.declare type), .identifier name, .operator .assign] :=
      fun _ value => .initialised type name value
    exact goOn ⟨_, [], rfl, precedes, awaitsOperand_nil⟩
  · cases stepped
    obtain ⟨type, name, rfl⟩ := holds
    exact begun_start carried (.bare type name)
  · cases stepped
    obtain rfl := holds
    have precedes : Setting.argument.Precedes [.keyword .print, .punctuation .openParen] :=
      fun _ value => .print value
    exact goOn ⟨_, [], rfl, precedes, awaitsOperand_nil⟩
  · obtain ⟨front, rest, rfl, precedes, awaits⟩ := holds
    exact goOn (holds_behindOperand precedes awaits stepped)
  · rename_i sign
    cases stepped
    obtain ⟨front, rest, rfl, precedes, opened⟩ := holds
    exact goOn ⟨front, _, List.append_assoc _ _ _, precedes, opened.awaitsOperand sign⟩
  · obtain ⟨front, rest, rfl, precedes, opened⟩ := holds
    exact goOn (holds_behindClose precedes opened stepped)
  · cases stepped
    obtain ⟨front, rest, rfl, precedes, opened⟩ := holds
    exact begun_start carried (precedes rest opened)
  · cases stepped
    exact begun_start carried holds
  · cases stepped

theorem begun_run (begun : stage.Begun front) (reached : stage.run rest = some next) :
    next.Begun (front ++ rest) := by
  induction rest generalizing stage front with
  | nil =>
      obtain rfl := Option.some.inj reached
      rwa [List.append_nil]
  | cons token rest induction =>
      rw [run_cons] at reached
      obtain ⟨middle, stepped, remaining⟩ := Option.bind_eq_some_iff.mp reached
      simpa using induction (begun_step begun stepped) remaining

theorem begun_of_run_start (reached : start.run tokens = some stage) : stage.Begun tokens := by
  have begun : start.Begun [] := ⟨[], [], rfl, fun _ program => program, rfl⟩
  exact begun_run begun reached

theorem relaxedProgram_of_begun (begun : stage.Begun tokens) (ends : stage.isFinal = true) :
    RelaxedProgram tokens := by
  obtain ⟨ended, current, rfl, carried, holds⟩ := begun
  apply carried
  rw [isFinal.eq_def] at ends
  split at ends
  · obtain rfl := holds
    exact .nil
  · obtain ⟨front, rest, rfl, precedes, opened⟩ := holds
    exact .last (precedes rest opened)
  · exact .last holds
  · cases ends

/-! ## Every stage can be completed -/

theorem exists_run_operator (setting : Setting) (depth : Nat) :
    ∃ rest last, (operator setting depth).run rest = some last ∧ last.isFinal = true := by
  induction depth with
  | zero =>
      cases setting with
      | tail => exact ⟨[], .operator .tail 0, rfl, rfl⟩
      | argument => exact ⟨[.punctuation .closeParen], .closed, rfl, rfl⟩
  | succ depth induction =>
      obtain ⟨rest, last, reached, ends⟩ := induction
      exact ⟨.punctuation .closeParen :: rest, last, reached, ends⟩

theorem exists_run_operand (setting : Setting) (depth : Nat) :
    ∃ rest last, (operand setting depth).run rest = some last ∧ last.isFinal = true := by
  obtain ⟨rest, last, reached, ends⟩ := exists_run_operator setting depth
  exact ⟨.integer 0 :: rest, last, reached, ends⟩

theorem exists_run_final (stage : Stage) :
    ∃ rest last, stage.run rest = some last ∧ last.isFinal = true := by
  cases stage with
  | start => exact ⟨[], .start, rfl, rfl⟩
  | declaring => exact ⟨[.identifier "", .punctuation .terminator], .start, rfl, rfl⟩
  | named => exact ⟨[.punctuation .terminator], .start, rfl, rfl⟩
  | printing =>
      obtain ⟨rest, last, reached, ends⟩ := exists_run_operand .argument 0
      exact ⟨.punctuation .openParen :: rest, last, reached, ends⟩
  | operand setting depth => exact exists_run_operand setting depth
  | operator setting depth => exact exists_run_operator setting depth
  | closed => exact ⟨[], .closed, rfl, rfl⟩

end Stage

/-- The relaxed grammar derives exactly the lists that lead to a stage where a program may end. -/
theorem relaxedProgram_iff {tokens : List Token} :
    RelaxedProgram tokens ↔ ∃ stage, Stage.start.run tokens = some stage ∧ stage.isFinal = true := by
  refine ⟨RelaxedProgram.run_start, ?_⟩
  rintro ⟨stage, reached, ends⟩
  exact Stage.relaxedProgram_of_begun (Stage.begun_of_run_start reached) ends

/-- A list is viable exactly if it leads to a stage at all. -/
theorem viable_iff {tokens : List Token} :
    Viable tokens ↔ ∃ stage, Stage.start.run tokens = some stage := by
  constructor
  · rintro ⟨rest, program⟩
    obtain ⟨last, reached, -⟩ := program.run_start
    rw [Stage.run_append] at reached
    obtain ⟨stage, front, -⟩ := Option.bind_eq_some_iff.mp reached
    exact ⟨stage, front⟩
  · rintro ⟨stage, reached⟩
    obtain ⟨rest, last, completed, ends⟩ := stage.exists_run_final
    exact ⟨rest, relaxedProgram_iff.mpr ⟨last, by simp [reached, completed], ends⟩⟩

end Luso
