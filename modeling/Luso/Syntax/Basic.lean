import Luso.Token.Basic

/-!
# Programs

A program is a list of statements.  Parentheses and terminators leave no trace in it: grouping is
the shape of the tree.
-/

namespace Luso

/-- An expression.  An assignment is an expression whose value is the assigned one. -/
inductive Expression where
  /-- An integer literal. -/
  | integer (value : Int32)
  /-- A decimal literal. -/
  | real (value : Binary64)
  /-- The value of a variable. -/
  | identifier (name : String)
  /-- An arithmetic operation. -/
  | binary (operation : Arithmetic) (left right : Expression)
  /-- An assignment to a variable. -/
  | assignment (name : String) (value : Expression)
deriving DecidableEq

/-- Whether an expression is, at its root, an assignment. -/
def Expression.isAssignment : Expression → Bool
  | .assignment _ _ => true
  | _ => false

/-- A statement. -/
inductive Statement where
  /-- Declares a variable and may give it a first value. -/
  | declaration (type : DataType) (name : String) (initial : Option Expression)
  /-- Prints a value. -/
  | print (argument : Expression)
  /-- Evaluates an expression for its assignments. -/
  | expression (value : Expression)
deriving DecidableEq

/-- A program: its statements in order. -/
abbrev Program := List Statement

end Luso
