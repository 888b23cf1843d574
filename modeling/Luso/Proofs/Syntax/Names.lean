import Luso.Syntax.Basic

/-!
# The names in a program

A name stands in a program where its variable is declared, where it is read and where it is assigned
to.
-/

namespace Luso

/-- The names that an expression reads or assigns to, from left to right. -/
def Expression.names : Expression → List String
  | .integer _ => []
  | .real _ => []
  | .identifier name => [name]
  | .binary _ left right => left.names ++ right.names
  | .assignment name value => name :: value.names

/-- The names that a statement reads or assigns to. -/
def Statement.usedNames : Statement → List String
  | .declaration _ _ none => []
  | .declaration _ _ (some initial) => initial.names
  | .print argument => argument.names
  | .expression value => value.names

/-- The name that a statement declares. -/
def Statement.declaredName? : Statement → Option String
  | .declaration _ name _ => some name
  | _ => none

/-- A name stands in a statement. -/
def Statement.Mentions (statement : Statement) (name : String) : Prop :=
  statement.declaredName? = some name ∨ name ∈ statement.usedNames

namespace Program

/-- The names that a program declares. -/
def declaredNames (program : Program) : List String :=
  program.filterMap Statement.declaredName?

/-- The statement with the given index declares a name. -/
def Declares (program : Program) (index : Nat) (name : String) : Prop :=
  ∃ statement, program[index]? = some statement ∧ statement.declaredName? = some name

/-- The statement with the given index reads a name or assigns to it. -/
def Uses (program : Program) (index : Nat) (name : String) : Prop :=
  ∃ statement, program[index]? = some statement ∧ name ∈ statement.usedNames

end Program

end Luso
