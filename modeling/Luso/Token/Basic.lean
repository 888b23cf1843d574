import Luso.Number.Written

/-!
# Tokens

The language has three reserved words, five operators and three punctuation marks; all other
tokens are names and numbers.
-/

namespace Luso

/-- The two types of values. -/
inductive DataType where
  /-- Integers of 32 bits. -/
  | integer
  /-- Double-precision numbers. -/
  | real
deriving DecidableEq

/-- The reserved words. -/
inductive Keyword where
  /-- Declares a variable of the given type. -/
  | declare (type : DataType)
  /-- Prints a value. -/
  | print
deriving DecidableEq

/-- The arithmetic operations. -/
inductive Arithmetic where
  /-- Sum. -/
  | add
  /-- Difference. -/
  | subtract
  /-- Product. -/
  | multiply
  /-- Quotient. -/
  | divide
deriving DecidableEq

/-- The operators. -/
inductive Operator where
  /-- Combines two values. -/
  | arithmetic (operation : Arithmetic)
  /-- Gives a variable a new value. -/
  | assign
deriving DecidableEq

/-- How operators of one binding power are grouped. -/
inductive Associativity where
  /-- From the left. -/
  | left
  /-- From the right. -/
  | right
deriving DecidableEq

/-- The punctuation marks. -/
inductive Punctuation where
  /-- Opens a group. -/
  | openParen
  /-- Closes a group. -/
  | closeParen
  /-- Ends a statement. -/
  | terminator
deriving DecidableEq

/-- The sorts of tokens. -/
inductive TokenKind where
  /-- A reserved word. -/
  | keyword
  /-- A name. -/
  | identifier
  /-- A number without a decimal point. -/
  | integer
  /-- A number with a decimal point. -/
  | decimal
  /-- An operator. -/
  | operator
  /-- A punctuation mark. -/
  | punctuation
deriving DecidableEq

/-- A token with what it carries. -/
inductive Token where
  /-- A reserved word. -/
  | keyword (keyword : Keyword)
  /-- A name. -/
  | identifier (name : String)
  /-- A number without a decimal point. -/
  | integer (value : Int32)
  /-- A number with a decimal point. -/
  | decimal (value : Binary64)
  /-- An operator. -/
  | operator (operator : Operator)
  /-- A punctuation mark. -/
  | punctuation (mark : Punctuation)
deriving DecidableEq

/-- The word for a type in programs and messages. -/
def DataType.spelling : DataType → String
  | .integer => "inteiro"
  | .real => "real"

namespace Keyword

/-- The word itself. -/
def spelling : Keyword → String
  | .declare type => type.spelling
  | .print => "imprimir"

/-- The type that a declaring word introduces. -/
def declaredType? : Keyword → Option DataType
  | .declare type => some type
  | .print => none

/-- All reserved words. -/
def all : List Keyword := [.declare .integer, .declare .real, .print]

/-- The reserved word with the given spelling. -/
def ofSpelling? (text : String) : Option Keyword :=
  all.find? (fun keyword => keyword.spelling == text)

end Keyword

/-- The sign of an operation. -/
def Arithmetic.symbol : Arithmetic → Char
  | .add => '+'
  | .subtract => '-'
  | .multiply => '*'
  | .divide => '/'

namespace Operator

/-- The sign of an operator. -/
def symbol : Operator → Char
  | .arithmetic operation => operation.symbol
  | .assign => '='

/-- The operation of an arithmetic operator. -/
def arithmetic? : Operator → Option Arithmetic
  | .arithmetic operation => some operation
  | .assign => none

/-- Assignments are grouped from the right, all else from the left. -/
def associativity : Operator → Associativity
  | .arithmetic _ => .left
  | .assign => .right

/-- All operators. -/
def all : List Operator :=
  [.arithmetic .add, .arithmetic .subtract, .arithmetic .multiply, .arithmetic .divide, .assign]

/-- The operator with the given sign. -/
def ofSymbol? (character : Char) : Option Operator :=
  all.find? (fun operator => operator.symbol == character)

end Operator

namespace Punctuation

/-- The mark itself. -/
def symbol : Punctuation → Char
  | .openParen => '('
  | .closeParen => ')'
  | .terminator => '!'

/-- All punctuation marks. -/
def all : List Punctuation := [.openParen, .closeParen, .terminator]

/-- The punctuation mark with the given sign. -/
def ofSymbol? (character : Char) : Option Punctuation :=
  all.find? (fun mark => mark.symbol == character)

end Punctuation

namespace TokenKind

/-- The name of a sort of tokens in messages. -/
def name : TokenKind → String
  | .keyword => "keyword"
  | .identifier => "identifier"
  | .integer => "integer literal"
  | .decimal => "decimal literal"
  | .operator => "operator"
  | .punctuation => "punctuation"

/-- All sorts of tokens. -/
def all : List TokenKind :=
  [.keyword, .identifier, .integer, .decimal, .operator, .punctuation]

end TokenKind

namespace Token

/-- The sort of a token. -/
def kind : Token → TokenKind
  | .keyword _ => .keyword
  | .identifier _ => .identifier
  | .integer _ => .integer
  | .decimal _ => .decimal
  | .operator _ => .operator
  | .punctuation _ => .punctuation

/-- The type that a token declares, if it is a declaring word. -/
def declaredType? : Token → Option DataType
  | .keyword word => word.declaredType?
  | _ => none

/-- The operation of a token, if it is an arithmetic operator. -/
def arithmetic? : Token → Option Arithmetic
  | .operator sign => sign.arithmetic?
  | _ => none

theorem eq_of_declaredType? {token : Token} {type : DataType}
    (declares : token.declaredType? = some type) : token = .keyword (.declare type) := by
  rcases token with (_ | _) | _ | _ | _ | _ | _ <;> cases declares
  rfl

theorem eq_of_arithmetic? {token : Token} {operation : Arithmetic}
    (combines : token.arithmetic? = some operation) : token = .operator (.arithmetic operation) := by
  rcases token with _ | _ | _ | _ | (_ | _) | _ <;> cases combines
  rfl

/-- The canonical spelling of a token. -/
def text : Token → String
  | .keyword word => word.spelling
  | .identifier name => name
  | .integer value => intText value.toInt
  | .decimal value => value.text
  | .operator sign => String.singleton sign.symbol
  | .punctuation mark => String.singleton mark.symbol

/-- Whether two tokens mean the same; decimal numbers are compared as numbers. -/
def equals : Token → Token → Bool
  | .decimal left, .decimal right => left.equals right
  | left, right => left == right

/-- A token in a listing: its sort and its spelling, in parentheses if the spelling is free. -/
def listing (token : Token) : String :=
  match token with
  | .identifier _ | .integer _ | .decimal _ => token.kind.name ++ " (" ++ token.text ++ ")"
  | _ => token.kind.name ++ " `" ++ token.text ++ "`"

end Token
end Luso
