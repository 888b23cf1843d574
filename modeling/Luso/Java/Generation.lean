import Luso.Java.Basic
import Luso.Syntax.Basic
import Luso.Text.Accents

/-!
# Generation of Java

A program becomes a Java class construct by construct.  Names lose their accents.
-/

namespace Luso

/-- The Java name of a variable. -/
def javaName (name : String) : String :=
  Text.removeAccents name

/-- The Java expression for an expression. -/
def Expression.toJava : Expression → Java.Expression
  | .integer value => .int value
  | .real value => .double value
  | .identifier name => .name (javaName name)
  | .binary operation left right => .binary operation left.toJava right.toJava
  | .assignment name value => .assignment (javaName name) value.toJava

/-- The Java statement for a statement. -/
def Statement.toJava : Statement → Java.Statement
  | .declaration type name initial =>
      .declaration type (javaName name) (initial.map Expression.toJava)
  | .print argument => .println argument.toJava
  | .expression value => .expression value.toJava

/-- The Java class of the given name that does what a program does. -/
def Program.toJava (program : Program) (className : String) : Java.MainClass :=
  { name := className, body := program.map Statement.toJava }

@[simp]
theorem isAssignment_toJava (expression : Expression) :
    expression.toJava.isAssignment = expression.isAssignment := by
  cases expression <;> rfl

end Luso
