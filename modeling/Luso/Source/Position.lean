/-!
# Positions in a source text

Lines are counted from 1.  Columns are counted from 0, in characters after the last line feed.
-/

namespace Luso

/-- A place in a source text. -/
structure Position where
  /-- Number of the line, from 1. -/
  line : Nat
  /-- Number of characters before the place in its line. -/
  column : Nat
deriving DecidableEq

namespace Position

/-- The beginning of a text. -/
def start : Position :=
  { line := 1, column := 0 }

/-- The place behind one more character. -/
def advance (position : Position) (character : Char) : Position :=
  if character = '\n' then { line := position.line + 1, column := 0 }
  else { position with column := position.column + 1 }

/-- The place behind a stretch of text. -/
def advanceOver (position : Position) (text : List Char) : Position :=
  text.foldl advance position

/-- A position as it is named in messages. -/
def text (position : Position) : String :=
  toString position.line ++ ":" ++ toString position.column

@[simp]
theorem advanceOver_nil (position : Position) : position.advanceOver [] = position := rfl

@[simp]
theorem advanceOver_cons (position : Position) (character : Char) (text : List Char) :
    position.advanceOver (character :: text) =
      (position.advance character).advanceOver text := rfl

theorem advanceOver_append (position : Position) (before after : List Char) :
    position.advanceOver (before ++ after) = (position.advanceOver before).advanceOver after :=
  List.foldl_append

end Position
end Luso
