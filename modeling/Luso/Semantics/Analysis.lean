import Luso.Semantics.Scope
import Luso.Syntax.Basic

/-!
# Analysis

A program is analysed by running it.  Every expression is evaluated while it is examined, so that
clashes of types, variables without a value and divisions by zero are all found in one pass.  The
variables are left as they are at the first error; assignments made before it stay made.
-/

namespace Luso

/-- The value of an expression, and the variables after its assignments. -/
def Expression.evaluate : Expression → Scope → Except SemanticError Value × Scope
  | .integer value, scope => (.ok (.integer value), scope)
  | .real value, scope => (.ok (.real value), scope)
  | .identifier name, scope => (scope.read name, scope)
  | .binary operation left right, scope =>
      match left.evaluate scope with
      | (.error error, scope) => (.error error, scope)
      | (.ok leftValue, scope) =>
          match right.evaluate scope with
          | (.error error, scope) => (.error error, scope)
          | (.ok rightValue, scope) =>
              match Value.combine? operation leftValue rightValue with
              | none => (.error .divisionByZero, scope)
              | some value => (.ok value, scope)
  | .assignment name assigned, scope =>
      if scope.contains name then
        match assigned.evaluate scope with
        | (.error error, scope) => (.error error, scope)
        | (.ok value, scope) =>
            match scope.assign name value with
            | .error error => (.error error, scope)
            | .ok scope => (.ok value, scope)
      else
        (.error (.undeclaredIdentifier name), scope)

/-- Declare a variable with its first value, if it has one.  The name is examined before the
type. -/
def Scope.introduce (scope : Scope) (type : DataType) (name : String)
    (initial : Option Value) : Except SemanticError Scope :=
  if scope.contains name then
    .error (.redeclaration name)
  else
    match initial with
    | none => scope.declare name type none
    | some value =>
        if value.type = type then scope.declare name type (some value)
        else .error (.typeMismatch value type)

namespace Statement

/-- Examine a declaration whose first value is known. -/
def analyzeDeclaration (type : DataType) (name : String) (initial : Option Value)
    (scope : Scope) : Except SemanticError Unit × Scope :=
  match scope.introduce type name initial with
  | .error error => (.error error, scope)
  | .ok scope => (.ok (), scope)

/-- Examine a statement.  Printing itself is left to the generated program. -/
def analyze : Statement → Scope → Except SemanticError Unit × Scope
  | .declaration type name none, scope => analyzeDeclaration type name none scope
  | .declaration type name (some initial), scope =>
      match initial.evaluate scope with
      | (.error error, scope) => (.error error, scope)
      | (.ok value, scope) => analyzeDeclaration type name (some value) scope
  | .print argument, scope =>
      match argument.evaluate scope with
      | (.error error, scope) => (.error error, scope)
      | (.ok _, scope) => (.ok (), scope)
  | .expression value, scope =>
      match value.evaluate scope with
      | (.error error, scope) => (.error error, scope)
      | (.ok _, scope) => (.ok (), scope)

end Statement

namespace Program

/-- Examine the statements of a program in order, up to the first error. -/
def analyzeFrom : Program → Scope → Except SemanticError Unit × Scope
  | [], scope => (.ok (), scope)
  | first :: rest, scope =>
      match first.analyze scope with
      | (.error error, scope) => (.error error, scope)
      | (.ok (), scope) => analyzeFrom rest scope

/-- Examine a program on its own. -/
def analyze (program : Program) : Except SemanticError Unit :=
  (analyzeFrom program .empty).1

end Program
end Luso
