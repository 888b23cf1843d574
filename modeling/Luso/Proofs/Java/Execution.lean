import Luso.Java.Generation
import Luso.Proofs.Number.Saturation
import Luso.Proofs.Semantics.Attempt

/-!
# Running Java

What the Java fragment does when it is run: operands are evaluated from left to right, `int`s wrap
around, an `int` beside a `double` is promoted, and an assignment yields what is assigned.  A use of
a variable that a Java compiler would refuse is a fault as well.
-/

namespace Luso

/-- The operation on `int`s, which wraps around.  A quotient loses its fraction. -/
def Arithmetic.wrap : Arithmetic → Int32 → Int32 → Int32
  | .add, left, right => left + right
  | .subtract, left, right => left - right
  | .multiply, left, right => left * right
  | .divide, left, right => left / right

theorem toInt_wrap (operation : Arithmetic) (left right : Int32) :
    (operation.wrap left right).toInt =
      (operation.exact left.toInt right.toInt).bmod 4294967296 := by
  cases operation with
  | add => exact Int32.toInt_add left right
  | subtract => exact Int32.toInt_sub left right
  | multiply => exact Int32.toInt_mul left right
  | divide => exact Int32.toInt_div left right

namespace Java

/-- Why a program stops, or is not even started. -/
inductive Fault where
  /-- An `int` is divided by zero. -/
  | arithmeticException
  /-- A compiler refuses the program. -/
  | refused
deriving DecidableEq

/-- The local variables of `main`. -/
abbrev Locals := String → Option Variable

/-- The value of an operation. -/
def combine (operation : Arithmetic) : Value → Value → Except Fault Value
  | .integer left, .integer right =>
      if operation = .divide ∧ right = 0 then .error .arithmeticException
      else .ok (.integer (operation.wrap left right))
  | left, right => .ok (.real (operation.apply left.toBinary64 right.toBinary64))

/-- A value as it is assigned to a variable of the given type. -/
def convert : DataType → Value → Except Fault Value
  | .integer, .integer value => .ok (.integer value)
  | .integer, .real _ => .error .refused
  | .real, value => .ok (.real value.toBinary64)

theorem convert_self (value : Value) : convert value.type value = .ok value := by
  cases value <;> rfl

/-- The value of a `double` literal, read back from its decimal.  All infinities are written as the
positive one, and `NaN` is no literal. -/
def literal : Binary64 → Except Fault Value
  | .finite false magnitude => .ok (.real magnitude.shortest.toBinary64)
  | .finite true magnitude => .ok (.real magnitude.shortest.toBinary64.negate)
  | .infinite _ => .ok (.real (.infinite false))
  | .nan => .error .refused

namespace Locals

/-- No variables. -/
def empty : Locals :=
  fun _ => none

/-- The variables with one added or replaced. -/
def set (locals : Locals) (name : String) (entry : Variable) : Locals :=
  fun other => if other = name then some entry else locals other

@[simp]
theorem set_set (locals : Locals) (name : String) (entry replaced : Variable) :
    (locals.set name replaced).set name entry = locals.set name entry := by
  funext other
  simp only [set]
  split <;> rfl

/-- What a variable holds.  It must be declared and have a value. -/
def read (locals : Locals) (name : String) : Except Fault Value :=
  match (locals name).bind Variable.value with
  | none => .error .refused
  | some value => .ok value

/-- Give a declared variable a value, which is also the result. -/
def store (locals : Locals) (name : String) (value : Value) : Except Fault Value × Locals :=
  match locals name with
  | none => (.error .refused, locals)
  | some entry =>
      match convert entry.type value with
      | .error fault => (.error fault, locals)
      | .ok converted => (.ok converted, locals.set name { entry with value := some converted })

/-- Declare a variable that is not declared yet. -/
def declare (locals : Locals) (type : DataType) (name : String) : Except Fault Unit × Locals :=
  if (locals name).isSome then (.error .refused, locals)
  else (.ok (), locals.set name { type, value := none })

theorem declare_of_fresh {locals : Locals} {name : String} (fresh : locals name = none)
    (type : DataType) :
    locals.declare type name = (.ok (), locals.set name { type, value := none }) := by
  rw [declare, fresh]
  rfl

/-- Declare a variable and give it its first value. -/
def introduce (locals : Locals) (type : DataType) (name : String) (value : Value) :
    Except Fault Unit × Locals :=
  andThen (locals.declare type name) fun _ locals =>
    andThen (locals.store name value) fun _ locals => (.ok (), locals)

/-- A value of the variable's type is stored as it is. -/
theorem store_of_type_eq {locals : Locals} {name : String} {entry : Variable} {value : Value}
    (found : locals name = some entry) (type_eq : entry.type = value.type) :
    locals.store name value =
      (.ok value, locals.set name { entry with value := some value }) := by
  rw [store, found]
  simp only [type_eq, convert_self]

theorem introduce_of_type_eq {locals : Locals} {name : String} (fresh : locals name = none)
    (value : Value) :
    locals.introduce value.type name value =
      (.ok (), locals.set name { type := value.type, value := some value }) := by
  have found : locals.set name { type := value.type, value := none } name =
      some { type := value.type, value := none } := if_pos rfl
  rw [introduce, declare_of_fresh fresh, andThen_ok, store_of_type_eq found rfl, andThen_ok, set_set]

end Locals

/-- The value of an expression, and the variables after its assignments. -/
def Expression.evaluate : Expression → Locals → Except Fault Value × Locals
  | .int value, locals => (.ok (.integer value), locals)
  | .double value, locals => (literal value, locals)
  | .name target, locals => (locals.read target, locals)
  | .binary operation left right, locals =>
      andThen (left.evaluate locals) fun leftValue locals =>
        andThen (right.evaluate locals) fun rightValue locals =>
          (combine operation leftValue rightValue, locals)
  | .assignment target assigned, locals =>
      andThen (assigned.evaluate locals) fun value locals => locals.store target value

/-- Run a statement. -/
def Statement.run : Statement → Locals → Except Fault Unit × Locals
  | .declaration type name none, locals => locals.declare type name
  | .declaration type name (some initial), locals =>
      andThen (initial.evaluate locals) fun value locals => locals.introduce type name value
  | .println argument, locals => andThen (argument.evaluate locals) fun _ locals => (.ok (), locals)
  | .expression value, locals => andThen (value.evaluate locals) fun _ locals => (.ok (), locals)

/-- Run statements in order, up to the first fault. -/
def run : List Statement → Locals → Except Fault Unit × Locals
  | [], locals => (.ok (), locals)
  | first :: rest, locals => andThen (first.run locals) fun _ locals => run rest locals

/-- Run the `main` method of a class. -/
def MainClass.run (mainClass : MainClass) : Except Fault Unit × Locals :=
  Java.run mainClass.body .empty

end Java
end Luso
