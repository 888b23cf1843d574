import Luso.Semantics.Value

/-!
# The scope of a program

A program has one scope.  A variable is declared once, with a type that it keeps, and holds no
value until it is given one of that type.
-/

namespace Luso

/-- Why a program, though well formed, has no meaning. -/
inductive SemanticError where
  /-- A name is declared a second time. -/
  | redeclaration (name : String)
  /-- A name is used that is not declared. -/
  | undeclaredIdentifier (name : String)
  /-- A variable is read that holds no value. -/
  | uninitializedIdentifier (name : String)
  /-- A variable is given a value of the other type. -/
  | typeMismatch (value : Value) (expected : DataType)
  /-- A number is divided by zero. -/
  | divisionByZero
deriving DecidableEq

/-- A declared variable. -/
structure Variable where
  /-- The type given by the declaration. -/
  type : DataType
  /-- What the variable holds, if it was ever given a value. -/
  value : Option Value
deriving DecidableEq

/-- The declared variables, the newest first. -/
structure Scope where
  /-- Each variable with its name. -/
  entries : List (String × Variable)
  /-- No name occurs twice. -/
  distinct : (entries.map Prod.fst).Nodup

namespace Scope

/-- No variables. -/
def empty : Scope :=
  { entries := [], distinct := List.nodup_nil }

/-- The names of the variables. -/
def names (scope : Scope) : List String :=
  scope.entries.map Prod.fst

/-- The number of variables. -/
def size (scope : Scope) : Nat :=
  scope.entries.length

/-- The variable of the given name. -/
def get? (scope : Scope) (name : String) : Option Variable :=
  scope.entries.lookup name

/-- Whether a name is declared. -/
def contains (scope : Scope) (name : String) : Bool :=
  (scope.get? name).isSome

/-- What the variable of the given name holds. -/
def read (scope : Scope) (name : String) : Except SemanticError Value :=
  match scope.get? name with
  | none => .error (.undeclaredIdentifier name)
  | some entry =>
      match entry.value with
      | none => .error (.uninitializedIdentifier name)
      | some value => .ok value

/-- Add a variable that is not declared yet.  The type of its first value is not examined. -/
def declare (scope : Scope) (name : String) (type : DataType) (value : Option Value) :
    Except SemanticError Scope :=
  if declared : name ∈ scope.names then
    .error (.redeclaration name)
  else
    .ok
      { entries := (name, { type, value }) :: scope.entries
        distinct := List.nodup_cons.mpr ⟨declared, scope.distinct⟩ }

/-- One entry with its value replaced if it has the given name. -/
def updateEntry (name : String) (value : Value) (entry : String × Variable) : String × Variable :=
  (entry.1, if entry.1 = name then { entry.2 with value := some value } else entry.2)

/-- The variables with the value of one of them replaced. -/
def update (scope : Scope) (name : String) (value : Value) : Scope :=
  { entries := scope.entries.map (updateEntry name value)
    distinct := by
      rw [List.map_map]
      exact scope.distinct }

/-- Give a declared variable a new value of its type. -/
def assign (scope : Scope) (name : String) (value : Value) :
    Except SemanticError Scope :=
  match scope.get? name with
  | none => .error (.undeclaredIdentifier name)
  | some entry =>
      if value.type = entry.type then .ok (scope.update name value)
      else .error (.typeMismatch value entry.type)

theorem lookup_cons_eq_ite (name : String) (entry : String × Variable)
    (rest : List (String × Variable)) :
    (entry :: rest).lookup name = if name = entry.1 then some entry.2 else rest.lookup name := by
  rw [List.lookup_cons]
  by_cases own : name = entry.1
  · simp [own]
  · rw [if_neg own, beq_eq_false_iff_ne.mpr own]

theorem contains_iff_mem_names (scope : Scope) (name : String) :
    scope.contains name = true ↔ name ∈ scope.names := by
  obtain ⟨entries, distinct⟩ := scope
  simp only [contains, get?, names]
  induction entries with
  | nil => simp
  | cons entry rest ih =>
      have rest_iff := ih (List.nodup_cons.mp distinct).2
      rw [lookup_cons_eq_ite, List.map_cons, List.mem_cons, ← rest_iff]
      by_cases own : name = entry.1 <;> simp [own]

/-- A declaration adds the variable and leaves the others as they are. -/
theorem get?_of_declare {scope result : Scope} {name : String} {type : DataType}
    {value : Option Value} (declared : scope.declare name type value = .ok result)
    (other : String) :
    result.get? other = if other = name then some { type, value } else scope.get? other := by
  rw [declare] at declared
  split at declared
  · exact absurd declared (by simp)
  · obtain rfl := Except.ok.inj declared
    exact lookup_cons_eq_ite other _ _

/-- An update changes the value of the named variable alone. -/
theorem get?_update (scope : Scope) (name : String) (value : Value) (other : String) :
    (scope.update name value).get? other =
      (scope.get? other).map
        (fun entry => if other = name then { entry with value := some value } else entry) := by
  obtain ⟨entries, distinct⟩ := scope
  simp only [update, get?]
  clear distinct
  induction entries with
  | nil => rfl
  | cons entry rest ih =>
      rw [List.map_cons, lookup_cons_eq_ite, lookup_cons_eq_ite, ih]
      by_cases own : other = entry.1 <;> simp [updateEntry, own]

end Scope
end Luso
