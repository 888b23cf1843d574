import Luso.Proofs.Syntax.Climbing
import Luso.Proofs.Syntax.Viability
import Luso.Syntax.Error

/-!
# What is expected at a stage

Where a beginning of a program stops, an error names one thing that a program could go on with.  Here
this is tied to the stages: whatever is described by the expectation of a stage leads on from it.
-/

namespace Luso

/-- The tokens that an expectation describes. -/
inductive Expectation.Describes : Expectation → Token → Prop where
  | token (token) : Describes (.token token) token
  | kind (token : Token) : Describes (.kind token.kind) token
  | integer (value) : Describes .atom (.integer value)
  | decimal (value) : Describes .atom (.decimal value)
  | identifier (name) : Describes .atom (.identifier name)
  | openParen : Describes .atom (.punctuation .openParen)
  | arithmetic (sign) : Describes .arithmetic (.operator (.arithmetic sign))
  | declaringWord (type) : Describes .declaringWord (.keyword (.declare type))

namespace Expectation.Describes

variable {token wanted : Token}

theorem eq_of_token (describes : (Expectation.token wanted).Describes token) : token = wanted := by
  cases describes with
  | token => rfl

theorem eq_identifier (describes : (Expectation.kind .identifier).Describes token) :
    ∃ name, token = .identifier name := by
  generalize expected_eq : Expectation.kind .identifier = expected at describes
  cases describes with
  | kind =>
      cases token with
      | identifier name => exact ⟨name, rfl⟩
      | _ => cases expected_eq
  | _ => cases expected_eq

theorem startsOperand (describes : Expectation.atom.Describes token) :
    token.kind = .integer ∨ token.kind = .decimal ∨ token.kind = .identifier ∨
      token = .punctuation .openParen := by
  generalize expected_eq : Expectation.atom = expected at describes
  cases describes with
  | integer | decimal | identifier | openParen => simp [Token.kind]
  | token | kind => cases expected_eq
  | arithmetic | declaringWord => exact absurd expected_eq (by decide)

end Expectation.Describes

namespace Stage

/-- What a program can go on with from a stage, as it is named in errors. -/
def expected : Stage → Expectation
  | .start | .operand _ _ => .atom
  | .declaring => .kind .identifier
  | .named => .token (.operator .assign)
  | .printing => .token (.punctuation .openParen)
  | .operator .tail 0 | .closed => .token (.punctuation .terminator)
  | .operator .argument 0 | .operator _ (_ + 1) => .token (.punctuation .closeParen)

theorem expected_operator_succ (setting : Setting) (depth : Nat) :
    (operator setting (depth + 1)).expected = .token (.punctuation .closeParen) := by
  cases setting <;> rfl

theorem expected_mem (stage : Stage) :
    stage.expected ∈ [.atom, .kind .identifier, .token (.punctuation .openParen),
      .token (.punctuation .closeParen), .token (.operator .assign),
      .token (.punctuation .terminator)] := by
  rcases stage with _ | _ | _ | _ | _ | ⟨_ | _, _ | depth⟩ | _ <;> simp [expected]

/-- Where a program cannot end, a terminator is not what is missing. -/
theorem expected_mem_of_unfinished {stage : Stage} (unfinished : stage.isFinal = false) :
    stage.expected ∈ [.atom, .kind .identifier, .token (.punctuation .openParen),
      .token (.punctuation .closeParen), .token (.operator .assign)] := by
  rcases stage with _ | _ | _ | _ | _ | ⟨_ | _, _ | depth⟩ | _ <;>
    cases unfinished <;> simp [expected]

/-- A program does not go on with the token or, if there is none, does not end. -/
def Rejects (stage : Stage) : Option Token → Prop
  | some token => stage.step token = none
  | none => stage.isFinal = false

/-- In front of what comes next, the stage is one where an operand is missing. -/
def TakesOperand (setting : Setting) (depth : Nat) (next : Option Token) (stage : Stage) : Prop :=
  stage.expected = .atom ∧ (next = none → stage.isFinal = false) ∧
    ∀ token ∈ next, stage.step token = behindOperand setting depth token

/-- In front of what comes next, a statement ends or an error is due. -/
def EndsStatement (next : Option Token) (stage : Stage) : Prop :=
  stage.step (.punctuation .terminator) = some .start ∧
    ∀ token ∈ next, token ≠ .punctuation .terminator →
      stage.expected = .token (.punctuation .terminator) ∧ stage.step token = none

variable {setting : Setting} {depth : Nat} {next : Option Token} {token : Token}

theorem takesOperand_operand : (operand setting depth).TakesOperand setting depth next :=
  ⟨rfl, fun _ => rfl, fun _ _ => rfl⟩

theorem takesOperand_start (noKeyword : token.kind ≠ .keyword) :
    start.TakesOperand .tail 0 (some token) := by
  refine ⟨rfl, by rintro ⟨⟩, ?_⟩
  rintro _ ⟨⟩
  cases token with
  | keyword => exact absurd rfl noKeyword
  | _ => rfl

theorem exists_behindOperand (describes : Expectation.atom.Describes token) :
    ∃ after, behindOperand setting depth token = some after ∧ token.kind ≠ .keyword := by
  have starts := describes.startsOperand
  rcases token with _ | _ | _ | _ | _ | (_ | _ | _)
  case identifier | integer | decimal | punctuation.openParen => exact ⟨_, rfl, by rintro ⟨⟩⟩
  all_goals simp [Token.kind] at starts

/-- From every stage a program goes on with whatever is expected there. -/
theorem exists_step_of_describes {stage : Stage} (describes : stage.expected.Describes token) :
    ∃ after, stage.step token = some after := by
  cases stage with
  | start =>
      obtain ⟨after, stepped, noKeyword⟩ := exists_behindOperand describes
      exact ⟨after, ((takesOperand_start noKeyword).2.2 token rfl).trans stepped⟩
  | operand setting depth =>
      obtain ⟨after, stepped, -⟩ := exists_behindOperand describes
      exact ⟨after, stepped⟩
  | declaring =>
      obtain ⟨name, rfl⟩ := describes.eq_identifier
      exact ⟨_, rfl⟩
  | operator setting depth =>
      rcases setting with _ | _ <;> rcases depth with _ | depth <;>
        cases describes.eq_of_token <;> exact ⟨_, rfl⟩
  | named | printing | closed =>
      cases describes.eq_of_token
      exact ⟨_, rfl⟩

end Stage

theorem standard_continues_lowest (sign : Operator) :
    Grammar.standard.continues .lowest (some (.operator sign)) = true := by
  rcases sign with (_ | _ | _ | _) | _ <;> rfl

/-- Behind an expression that no operator continues, only the expected token is not rejected. -/
theorem Stage.rejects_of_operator {setting : Setting} {depth : Nat} {next : Option Token}
    {wanted : Token} (expected_eq : (operator setting depth).expected = .token wanted)
    (ends : Grammar.standard.continues .lowest next = false) (other : next ≠ some wanted)
    (unfinished : next = none → (operator setting depth).isFinal = false) :
    (operator setting depth).Rejects next := by
  cases next with
  | none => exact unfinished rfl
  | some token =>
      rcases token with _ | _ | _ | _ | sign | (_ | _ | _)
      case operator =>
        rw [standard_continues_lowest] at ends
        cases ends
      all_goals
        rcases setting with _ | _ <;> rcases depth with _ | depth <;> cases expected_eq <;>
          first | rfl | exact absurd rfl other

namespace Stage

variable {next : Option Token}

theorem endsStatement_operator (ends : Grammar.standard.continues .lowest next = false) :
    (operator .tail 0).EndsStatement next := by
  refine ⟨rfl, fun token here other => ⟨rfl, ?_⟩⟩
  obtain rfl : next = some token := here
  exact rejects_of_operator rfl ends (by simpa using other) (by rintro ⟨⟩)

theorem endsStatement_closed : closed.EndsStatement next := by
  refine ⟨rfl, fun token _ other => ⟨rfl, ?_⟩⟩
  rcases token with _ | _ | _ | _ | _ | (_ | _ | _) <;> first | rfl | exact absurd rfl other

theorem rejects_named (noSign : next ≠ some (.operator .assign))
    (noTerminator : next ≠ some (.punctuation .terminator)) : named.Rejects next := by
  rcases next with _ | (_ | _ | _ | _ | (_ | _) | (_ | _ | _))
  case some.operator.assign => exact absurd rfl noSign
  case some.punctuation.terminator => exact absurd rfl noTerminator
  all_goals rfl

theorem rejects_printing (noParen : next ≠ some (.punctuation .openParen)) :
    printing.Rejects next := by
  rcases next with _ | (_ | _ | _ | _ | _ | (_ | _ | _))
  case some.punctuation.openParen => exact absurd rfl noParen
  all_goals rfl

end Stage

/-! ## Viable continuations -/

theorem viable_append_iff {front : List Token} {stage : Stage}
    (reached : Stage.start.run front = some stage) (token : Token) :
    Viable (front ++ [token]) ↔ ∃ next, stage.step token = some next := by
  rw [viable_iff]
  simp [reached]

theorem viable_append_of_describes {front : List Token} {stage : Stage}
    (reached : Stage.start.run front = some stage) {token : Token}
    (describes : stage.expected.Describes token) : Viable (front ++ [token]) :=
  (viable_append_iff reached token).mpr (Stage.exists_step_of_describes describes)

end Luso
