import Luso.Token.Stream

/-!
# Syntax errors

A syntax error says where the reading stopped, what was found there and what would have continued
the program.
-/

namespace Luso

/-- What would have continued the program. -/
inductive Expectation where
  /-- One particular token. -/
  | token (token : Token)
  /-- Any token of a sort. -/
  | kind (kind : TokenKind)
  /-- One of several tokens, described in words. -/
  | description (text : String)
deriving DecidableEq

namespace Expectation

/-- A token that starts an expression. -/
def atom : Expectation := .description "number, identifier or `(`"

/-- An operator that combines two values. -/
def arithmetic : Expectation := .description "arithmetic operator"

/-- A word that declares a variable. -/
def declaringWord : Expectation := .description "`inteiro` or `real`"

/-- An expectation as it is named in messages. -/
def text : Expectation → String
  | .token wanted => "`" ++ wanted.text ++ "`"
  | .kind wanted => wanted.name
  | .description words => words

end Expectation

/-- Why a sequence of tokens is no program. -/
inductive SyntaxError where
  /-- A token that cannot stand where it stands. -/
  | unexpectedToken (expected : Expectation) (found : Token) (position : Position)
  /-- The text ends too early. -/
  | unexpectedEnd (expected : Expectation) (position : Position)
  /-- The left side of an assignment is no variable. -/
  | invalidAssignee (position : Position)
deriving DecidableEq

/-- Why a source text cannot be read as a program. -/
inductive ParseError where
  /-- It cannot be split into tokens. -/
  | lexical (error : LexicalError)
  /-- Its tokens form no program. -/
  | syntactic (error : SyntaxError)
deriving DecidableEq

end Luso
