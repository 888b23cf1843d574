import Luso.Source.Position

/-!
# Readers

A reader stands somewhere in a source text and only moves forward.  It holds the text still ahead
and the place where it stands; every movement is a number of characters passed over.
-/

namespace Luso

/-- A reading position and the text ahead of it. -/
structure Reader where
  /-- The text not yet passed over. -/
  remaining : List Char
  /-- Where the reader stands. -/
  position : Position

namespace Reader

/-- The reader at the beginning of a text. -/
def ofText (text : List Char) : Reader :=
  { remaining := text, position := Position.start }

/-- The next character. -/
def peek (reader : Reader) : Option Char :=
  reader.remaining.head?

/-- Whether nothing is ahead. -/
def atEnd (reader : Reader) : Bool :=
  reader.remaining.isEmpty

/-- Pass over `count` characters, or over all if there are fewer. -/
def skip (reader : Reader) (count : Nat) : Reader :=
  { remaining := reader.remaining.drop count
    position := reader.position.advanceOver (reader.remaining.take count) }

/-- Pass over one character and return it. -/
def advance (reader : Reader) : Option Char × Reader :=
  (reader.peek, reader.skip 1)

/-- Pass over as many characters as a text has. -/
def consume (reader : Reader) (text : List Char) : Reader :=
  reader.skip text.length

/-- Pass over the longest stretch whose characters all satisfy `test`, and return it. -/
def readWhile (reader : Reader) (test : Char → Bool) : List Char × Reader :=
  let stretch := reader.remaining.takeWhile test
  (stretch, reader.consume stretch)

@[simp]
theorem skip_remaining (reader : Reader) (count : Nat) :
    (reader.skip count).remaining = reader.remaining.drop count := rfl

@[simp]
theorem consume_remaining (reader : Reader) (text : List Char) :
    (reader.consume text).remaining = reader.remaining.drop text.length := rfl

/-- Two movements in a row are one movement. -/
theorem skip_skip (reader : Reader) (first second : Nat) :
    (reader.skip first).skip second = reader.skip (first + second) := by
  simp only [skip, List.drop_drop, List.take_add, Position.advanceOver_append]

end Reader
end Luso
