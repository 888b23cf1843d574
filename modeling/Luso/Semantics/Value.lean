import Luso.Token.Basic

/-!
# Values

A value is an integer or a double-precision number.  All arithmetic is done in double precision;
the result of an operation on two integers is cut back to an integer.
-/

namespace Luso

/-- A value of the language. -/
inductive Value where
  /-- An integer of 32 bits. -/
  | integer (value : Int32)
  /-- A double-precision number. -/
  | real (value : Binary64)
deriving DecidableEq

/-- The operation on double-precision numbers. -/
def Arithmetic.apply : Arithmetic → Binary64 → Binary64 → Binary64
  | .add => Binary64.add
  | .subtract => Binary64.sub
  | .multiply => Binary64.mul
  | .divide => Binary64.div

namespace Value

/-- The type of a value. -/
def type : Value → DataType
  | .integer _ => .integer
  | .real _ => .real

/-- A value as a double-precision number. -/
def toBinary64 : Value → Binary64
  | .integer value => Binary64.ofInt value.toInt
  | .real value => value

/-- A value as it is written in messages. -/
def text : Value → String
  | .integer value => intText value.toInt
  | .real value => value.text

/-- The value of an operation.  Dividing by a zero, of either type and sign, gives none. -/
def combine? (operation : Arithmetic) (left right : Value) : Option Value :=
  if operation = .divide ∧ right.toBinary64.isZero then
    none
  else
    let number := operation.apply left.toBinary64 right.toBinary64
    match left, right with
    | .integer _, .integer _ => some (.integer number.toInt32)
    | _, _ => some (.real number)

/-- The type of an operation's value depends on the types of the operands alone. -/
theorem type_of_combine? {operation : Arithmetic} {left right result : Value}
    (combined : combine? operation left right = some result) :
    result.type =
      (if left.type = .integer ∧ right.type = .integer then .integer else .real) := by
  rw [combine?] at combined
  split at combined
  · exact absurd combined (by simp)
  · cases left <;> cases right <;> simp only [Option.some.injEq] at combined <;>
      subst combined <;> rfl

end Value
end Luso
