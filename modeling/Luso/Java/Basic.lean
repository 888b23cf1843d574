import Luso.Token.Basic

/-!
# The Java fragment

The part of Java that programs are compiled to: one class whose `main` method declares local
variables, prints values and evaluates expressions.  Every binary operation is written in
parentheses, and so is every assignment that is an operand; so the text groups as the tree does.
-/

namespace Luso
namespace Java

/-- A Java expression. -/
inductive Expression where
  /-- An `int` literal. -/
  | int (value : Int32)
  /-- A `double` literal, or a constant in its place. -/
  | double (value : Binary64)
  /-- The value of a local variable. -/
  | name (name : String)
  /-- An arithmetic operation. -/
  | binary (operation : Arithmetic) (left right : Expression)
  /-- An assignment to a local variable. -/
  | assignment (name : String) (value : Expression)
deriving DecidableEq

/-- A Java statement. -/
inductive Statement where
  /-- Declares a local variable. -/
  | declaration (type : DataType) (name : String) (initial : Option Expression)
  /-- Prints a value and ends the line. -/
  | println (argument : Expression)
  /-- Evaluates an expression. -/
  | expression (value : Expression)
deriving DecidableEq

/-- A public class with nothing but a `main` method. -/
structure MainClass where
  /-- The name of the class. -/
  name : String
  /-- The statements of `main`. -/
  body : List Statement
deriving DecidableEq

/-- The primitive type that holds the values of a type. -/
def typeName : DataType → String
  | .integer => "int"
  | .real => "double"

/-- A text in parentheses, if they are needed. -/
def enclose (needed : Bool) (text : List Char) : List Char :=
  if needed then '(' :: text ++ [')'] else text

/-- A `double`.  Infinity has no literal and is named by its constant. -/
def writeDouble : Binary64 → List Char
  | .infinite _ => "Double.POSITIVE_INFINITY".toList
  | value => value.write

namespace Expression

/-- Whether an expression is, at its root, an assignment. -/
def isAssignment : Expression → Bool
  | .assignment _ _ => true
  | _ => false

/-- The text of an expression. -/
def write : Expression → List Char
  | .int value => writeInt value.toInt
  | .double value => writeDouble value
  | .name text => text.toList
  | .binary operation left right =>
      '(' :: enclose left.isAssignment left.write ++ [' ', operation.symbol, ' '] ++
        enclose right.isAssignment right.write ++ [')']
  | .assignment target value => target.toList ++ [' ', '=', ' '] ++ value.write

/-- The text of an expression as a string. -/
def text (expression : Expression) : String :=
  String.ofList expression.write

end Expression

namespace Statement

/-- The text of a statement, without the semicolon that ends it. -/
def write : Statement → List Char
  | .declaration type name none => (typeName type).toList ++ ' ' :: name.toList
  | .declaration type name (some initial) =>
      (typeName type).toList ++ ' ' :: name.toList ++ [' ', '=', ' '] ++ initial.write
  | .println argument => "System.out.println(".toList ++ argument.write ++ [')']
  | .expression value => value.write

/-- The text of a statement as a string, without the semicolon that ends it. -/
def text (statement : Statement) : String :=
  String.ofList statement.write

/-- A statement on a line of its own in the body of `main`. -/
def writeLine (statement : Statement) : List Char :=
  ['\t', '\t'] ++ statement.write ++ [';', '\n']

end Statement

namespace MainClass

/-- The text of a class. -/
def write (mainClass : MainClass) : List Char :=
  "public class ".toList ++ mainClass.name.toList ++ " \x7b\n".toList ++
    "\tpublic static void main(String[] args) \x7b\n".toList ++
    mainClass.body.flatMap Statement.writeLine ++
    "\t\x7d\n\x7d\n".toList

/-- The text of a class as a string. -/
def text (mainClass : MainClass) : String :=
  String.ofList mainClass.write

end MainClass
end Java
end Luso
