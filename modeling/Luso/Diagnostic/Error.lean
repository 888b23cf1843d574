import Luso.Semantics.Scope
import Luso.Syntax.Error
import Luso.Text.Quoted

/-!
# Errors

Whatever is wrong with a program is one of ten errors.  Each has a name, a message, a place in the
source text unless it was found by running the program, and a tip for its author.
-/

namespace Luso

/-- What is wrong with a program. -/
inductive Error where
  /-- It cannot be split into tokens. -/
  | lexical (error : LexicalError)
  /-- Its tokens form no program. -/
  | syntactic (error : SyntaxError)
  /-- It has no meaning. -/
  | semantic (error : SemanticError)
deriving DecidableEq

/-- An error met while a source text is read. -/
def ParseError.toError : ParseError → Error
  | .lexical error => .lexical error
  | .syntactic error => .syntactic error

namespace LexicalError

/-- The name of an error. -/
def name : LexicalError → String
  | .unrecognisedCharacter _ _ => "UnrecognisedCharacter"
  | .invalidNumber _ _ => "InvalidNumber"

/-- Where the error is. -/
def position : LexicalError → Position
  | .unrecognisedCharacter _ position => position
  | .invalidNumber _ position => position

/-- What is wrong. -/
def message : LexicalError → String
  | .unrecognisedCharacter character position =>
      "invalid character " ++ Text.quoteChar character ++ " at " ++ position.text
  | .invalidNumber lexeme position =>
      "error parsing number " ++ Text.quoteString lexeme ++ " at " ++ position.text

/-- What the author may have overlooked. -/
def tip? : LexicalError → Option String
  | .unrecognisedCharacter _ _ => none
  | .invalidNumber lexeme _ =>
      some ("Invalid number: `" ++ lexeme ++ "`, is it above the integer limit?")

end LexicalError

/-- Whether a token may be the start of the next statement: a keyword or a name. -/
def Token.startsStatement : Token → Bool
  | .keyword _ | .identifier _ => true
  | _ => false

/-- Whether what is expected is a punctuation mark. -/
def Expectation.isPunctuation : Expectation → Bool
  | .token (.punctuation _) => true
  | _ => false

namespace SyntaxError

/-- The name of an error. -/
def name : SyntaxError → String
  | .unexpectedToken _ _ _ => "UnexpectedToken"
  | .unexpectedEnd _ _ => "UnexpectedEof"
  | .invalidAssignee _ => "InvalidAssignee"

/-- Where the error is. -/
def position : SyntaxError → Position
  | .unexpectedToken _ _ position => position
  | .unexpectedEnd _ position => position
  | .invalidAssignee position => position

/-- What is wrong. -/
def message : SyntaxError → String
  | .unexpectedToken expected found position =>
      "unexpected token `" ++ found.text ++ "` at " ++ position.text ++ ", expected " ++
        expected.text
  | .unexpectedEnd expected _ => "unexpected end of input, expected " ++ expected.text
  | .invalidAssignee position => "invalid assignment target at " ++ position.text

/-- What the author may have overlooked.  A keyword or a name in place of a punctuation mark
suggests that the statement before it was not ended. -/
def tip : SyntaxError → String
  | .unexpectedToken expected found _ =>
      if expected.isPunctuation && found.startsStatement then
        "Unexpected token: `" ++ found.text ++ "`, did you miss a `!`?"
      else
        "Unexpected token: `" ++ found.text ++ "`, expected " ++ expected.text
  | .unexpectedEnd expected _ => "Input ended early, expected " ++ expected.text
  | .invalidAssignee _ => "Only a variable name can appear on the left of `=`"

end SyntaxError

namespace SemanticError

/-- The name of an error. -/
def name : SemanticError → String
  | .redeclaration _ => "Redeclaration"
  | .undeclaredIdentifier _ => "UndeclaredIdentifier"
  | .uninitializedIdentifier _ => "UninitializedIdentifier"
  | .typeMismatch _ _ => "TypeMismatch"
  | .divisionByZero => "DivisionByZero"

/-- What is wrong. -/
def message : SemanticError → String
  | .redeclaration name => "variable " ++ Text.quoteString name ++ " has already been declared"
  | .undeclaredIdentifier name => "variable " ++ Text.quoteString name ++ " has not been declared"
  | .uninitializedIdentifier name =>
      "variable " ++ Text.quoteString name ++ " has not been initialized"
  | .typeMismatch value expected =>
      "Type mismatch for value " ++ value.text ++ ", expected " ++ expected.spelling
  | .divisionByZero => "Division by zero"

/-- What the author may have overlooked. -/
def tip : SemanticError → String
  | .redeclaration name => "Variable `" ++ name ++ "` already declared"
  | .undeclaredIdentifier name =>
      "Variable `" ++ name ++ "` must be declared with `inteiro` or `real` first"
  | .uninitializedIdentifier name => "Variable `" ++ name ++ "` is read before any assignment"
  | .typeMismatch value expected =>
      "Expected type `" ++ expected.spelling ++ "`, received `" ++ value.type.spelling ++ "` (" ++
        value.text ++ ")"
  | .divisionByZero => "the divisor evaluated to zero"

end SemanticError

namespace Error

/-- The name of an error. -/
def name : Error → String
  | .lexical error => error.name
  | .syntactic error => error.name
  | .semantic error => error.name

/-- Where the error is, if it was found before the program was run. -/
def position? : Error → Option Position
  | .lexical error => some error.position
  | .syntactic error => some error.position
  | .semantic _ => none

/-- What is wrong. -/
def message : Error → String
  | .lexical error => error.message
  | .syntactic error => error.message
  | .semantic error => error.message

/-- What the author may have overlooked. -/
def tip? : Error → Option String
  | .lexical error => error.tip?
  | .syntactic error => some error.tip
  | .semantic error => some error.tip

end Error
end Luso
