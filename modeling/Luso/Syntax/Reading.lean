import Luso.Syntax.Basic
import Luso.Syntax.Error
import Luso.Syntax.Grammar

/-!
# Parsing

Statements are recognised by their first token, expressions by precedence climbing: one atom, and
then every operator that binds more strongly than the place where the expression stands.

Each reading takes a stream and leaves another one, also when it fails.  A reading that succeeds
says in its type how much it used up at least; so the recursion ends whatever the grammar is.
-/

namespace Luso

/-- What comes of a reading that starts from a given stream. -/
inductive Outcome (α : Type) (least : Nat) (start : TokenStream) where
  /-- Something was read, and at least `least` of what could be handed out is used up. -/
  | done (value : α) (after : TokenStream) (used : after.size + least ≤ start.size)
  /-- The text cannot be read on. -/
  | failed (error : ParseError) (after : TokenStream)

namespace Outcome

/-- What was read, or why nothing was. -/
def result {α : Type} {least : Nat} {start : TokenStream} :
    Outcome α least start → Except ParseError α
  | .done value _ _ => .ok value
  | .failed error _ => .error error

/-- The stream that is left. -/
def after {α : Type} {least : Nat} {start : TokenStream} : Outcome α least start → TokenStream
  | .done _ after _ => after
  | .failed _ after => after

/-- The outcome of the last step as the outcome of all steps since an earlier stream. -/
def since {α : Type} {least total : Nat} {start middle : TokenStream}
    (outcome : Outcome α least middle) (used : middle.size + total ≤ start.size + least) :
    Outcome α total start :=
  match outcome with
  | .done value after last => .done value after (by omega)
  | .failed error after => .failed error after

/-- The outcome with its value replaced. -/
def map {α β : Type} {least : Nat} {start : TokenStream} (change : α → β) :
    Outcome α least start → Outcome β least start
  | .done value after used => .done (change value) after used
  | .failed error after => .failed error after

end Outcome

namespace Reading

/-- The error that a token is met which does not fit, at the place looked at last. -/
def unexpectedToken (stream : TokenStream) (expected : Expectation) (found : Token) : ParseError :=
  .syntactic (.unexpectedToken expected found stream.tokenStart)

/-- The error that the text ends too early. -/
def unexpectedEnd (stream : TokenStream) (expected : Expectation) : ParseError :=
  .syntactic (.unexpectedEnd expected stream.tokenStart)

/-- The next token, which stays where it is; `none` at the end of the text. -/
def current (stream : TokenStream) : Outcome (Option Token) 0 stream :=
  match looked : stream.peek with
  | (.ok token, after) => .done token after (TokenStream.peek_size_le looked)
  | (.error error, after) => .failed (.lexical error) after

/-- Take the next token.  If there is none, `expected` says what is missing. -/
def advance (stream : TokenStream) (expected : Expectation) : Outcome Token 1 stream :=
  match handed : stream.next with
  | (.ok (some token), after) => .done token after (TokenStream.next_size_lt handed)
  | (.ok none, after) => .failed (unexpectedEnd after expected) after
  | (.error error, after) => .failed (.lexical error) after

/-- Whether the next token is the given one. -/
def isCurrent (stream : TokenStream) (token : Token) : Outcome Bool 0 stream :=
  (current stream).map (fun found => found.any (·.equals token))

/-- Whether there is a next token. -/
def hasTokens (stream : TokenStream) : Outcome Bool 0 stream :=
  (current stream).map Option.isSome

/-- Take the next token if it is the given one.  If it is not, `expected` says what is missing. -/
def expectAs (stream : TokenStream) (token : Token) (expected : Expectation) :
    Outcome Token 1 stream :=
  match current stream with
  | .failed error after => .failed error after
  | .done none after _ => .failed (unexpectedEnd after expected) after
  | .done (some found) after used =>
      if found.equals token then
        (advance after expected).since (by omega)
      else
        .failed (unexpectedToken after expected found) after

/-- Take the next token if it is the given one. -/
def expect (stream : TokenStream) (token : Token) : Outcome Token 1 stream :=
  expectAs stream token (.token token)

/-- A literal or a name. -/
def primary (stream : TokenStream) : Outcome Expression 1 stream :=
  match advance stream .atom with
  | .failed error after => .failed error after
  | .done (.integer value) after used => .done (.integer value) after used
  | .done (.decimal value) after used => .done (.real value) after used
  | .done (.identifier name) after used => .done (.identifier name) after used
  | .done other after _ => .failed (unexpectedToken after .atom other) after

mutual

/-- An expression: an atom and the operators after it that bind at the given power. -/
def expression (grammar : Grammar) (stream : TokenStream) (power : BindingPower) :
    Outcome Expression 1 stream :=
  match current stream with
  | .failed error after => .failed error after
  | .done none after _ => .failed (unexpectedEnd after .atom) after
  | .done (some token) ahead looked =>
      match grammar.atom token.kind with
      | none => .failed (unexpectedToken ahead .atom token) ahead
      | some form =>
          match atom grammar ahead form with
          | .failed error after => .failed error after
          | .done left after used => (climb grammar after left power).since (by omega)
termination_by 2 * stream.size + 1

/-- The operators that continue the expression `left` at the given power. -/
def climb (grammar : Grammar) (stream : TokenStream) (left : Expression) (power : BindingPower) :
    Outcome Expression 0 stream :=
  match current stream with
  | .failed error after => .failed error after
  | .done (some (.operator sign)) ahead looked =>
      match grammar.operator sign with
      | none => .done left ahead looked
      | some (own, form) =>
          if sign.binds own power then
            match operation grammar ahead form left own with
            | .failed error after => .failed error after
            | .done whole after used => (climb grammar after whole power).since (by omega)
          else
            .done left ahead looked
  | .done _ ahead looked => .done left ahead looked
termination_by 2 * stream.size + 1

/-- An atom of the given form. -/
def atom (grammar : Grammar) (stream : TokenStream) : AtomForm → Outcome Expression 1 stream
  | .primary => primary stream
  | .group =>
      match expectAs stream (.punctuation .openParen) .atom with
      | .failed error after => .failed error after
      | .done _ inside opened =>
          match expression grammar inside .lowest with
          | .failed error after => .failed error after
          | .done value behind read =>
              match expect behind (.punctuation .closeParen) with
              | .failed error after => .failed error after
              | .done _ after closed => .done value after (by omega)
termination_by 2 * stream.size

/-- An operator of the given form and its right operand, which is read at the power of the
operator. -/
def operation (grammar : Grammar) (stream : TokenStream) (form : OperatorForm) (left : Expression)
    (power : BindingPower) : Outcome Expression 1 stream :=
  match form with
  | .binary =>
      match advance stream (.kind .operator) with
      | .failed error after => .failed error after
      | .done token behind passed =>
          match token.arithmetic? with
          | none => .failed (unexpectedToken behind .arithmetic token) behind
          | some sign =>
              match expression grammar behind power with
              | .failed error after => .failed error after
              | .done right after read => .done (.binary sign left right) after (by omega)
  | .assignment =>
      match expect stream (.operator .assign) with
      | .failed error after => .failed error after
      | .done _ behind passed =>
          match expression grammar behind power with
          | .failed error after => .failed error after
          | .done value after read =>
              match left with
              | .identifier name => .done (.assignment name value) after (by omega)
              | _ => .failed (.syntactic (.invalidAssignee stream.tokenStart)) after
termination_by 2 * stream.size

end

/-- A declaration.  One without a first value must be followed by a terminator. -/
def declaration (grammar : Grammar) (stream : TokenStream) : Outcome Statement 1 stream :=
  match advance stream .declaringWord with
  | .failed error after => .failed error after
  | .done token behindType typeRead =>
      match token.declaredType? with
      | none => .failed (unexpectedToken behindType .declaringWord token) behindType
      | some type =>
          match advance behindType (.kind .identifier) with
          | .failed error after => .failed error after
          | .done (.identifier name) behindName nameRead =>
              match isCurrent behindName (.punctuation .terminator) with
              | .failed error after => .failed error after
              | .done true after looked => .done (.declaration type name none) after (by omega)
              | .done false ahead looked =>
                  match expect ahead (.operator .assign) with
                  | .failed error after => .failed error after
                  | .done _ behindSign passed =>
                      match expression grammar behindSign .lowest with
                      | .failed error after => .failed error after
                      | .done value after read =>
                          .done (.declaration type name (some value)) after (by omega)
          | .done other after _ => .failed (unexpectedToken after (.kind .identifier) other) after

/-- A print statement. -/
def printing (grammar : Grammar) (stream : TokenStream) : Outcome Statement 1 stream :=
  match expect stream (.keyword .print) with
  | .failed error after => .failed error after
  | .done _ behindWord wordRead =>
      match expect behindWord (.punctuation .openParen) with
      | .failed error after => .failed error after
      | .done _ inside opened =>
          match expression grammar inside .lowest with
          | .failed error after => .failed error after
          | .done argument behind read =>
              match expect behind (.punctuation .closeParen) with
              | .failed error after => .failed error after
              | .done _ after closed => .done (.print argument) after (by omega)

/-- A statement of the given form. -/
def statementOf (grammar : Grammar) (stream : TokenStream) :
    StatementForm → Outcome Statement 1 stream
  | .declaration => declaration grammar stream
  | .print => printing grammar stream

/-- The form of the statement that a token starts; none if it starts an expression. -/
def statementForm? (grammar : Grammar) : Option Token → Option StatementForm
  | some (.keyword keyword) => grammar.statement keyword
  | _ => none

/-- A statement.  Whatever is not announced by a keyword is an expression. -/
def statement (grammar : Grammar) (stream : TokenStream) : Outcome Statement 1 stream :=
  match current stream with
  | .failed error after => .failed error after
  | .done token ahead looked =>
      match statementForm? grammar token with
      | some form => (statementOf grammar ahead form).since (by omega)
      | none => ((expression grammar ahead .lowest).map .expression).since (by omega)

/-- All statements up to the end of the text.  A terminator stands between two statements and may
stand after the last one. -/
def program (grammar : Grammar) (stream : TokenStream) : Outcome Program 0 stream :=
  match current stream with
  | .failed error after => .failed error after
  | .done none after looked => .done [] after looked
  | .done (some _) ahead looked =>
      match statement grammar ahead with
      | .failed error after => .failed error after
      | .done first behind read =>
          match current behind with
          | .failed error after => .failed error after
          | .done none after ended => .done [first] after (by omega)
          | .done (some _) next lookedOn =>
              match expect next (.punctuation .terminator) with
              | .failed error after => .failed error after
              | .done _ rest passed =>
                  match program grammar rest with
                  | .failed error after => .failed error after
                  | .done others after used => .done (first :: others) after (by omega)
termination_by stream.size

end Reading

/-- Read a source text as a program. -/
def parse (source : String) : Except ParseError Program :=
  (Reading.program .standard (TokenStream.ofSource source)).result

end Luso
