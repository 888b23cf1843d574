import Luso.Diagnostic.Error
import Luso.Text.Blank
import Luso.Text.Split

/-!
# Reports

An error is reported with the line of the source text in which it is and a caret under its place.
The line is shown without its indentation, and the caret is moved to the left accordingly.

The caret is put in its place by filling up to a width.  A width has 16 bits, so a caret that is too far
to the right cannot be displayed: the program panics.
-/

namespace Luso

/-- The line of the given number, from 1, without the carriage returns at its end. -/
def lineAt? (source : List Char) (number : Nat) : Option (List Char) :=
  match number with
  | 0 => none
  | index + 1 => (Text.split '\n' source)[index]?.map (Text.trimEndWhile (· == '\r'))

/-- A line of a source text with a place in it. -/
structure Excerpt where
  /-- The number of the line. -/
  number : Nat
  /-- The line without its indentation and without the white space at its end. -/
  text : List Char
  /-- The number of characters before the place. -/
  caret : Nat

namespace Excerpt

/-- The excerpt that shows a place in a line. -/
def ofLine (line : List Char) (position : Position) : Excerpt :=
  { number := position.line
    text := Text.trimEndWhile Text.isWhiteSpace (line.dropWhile Text.isIndent)
    caret := position.column - (line.takeWhile Text.isIndent).length }

/-- The line number as it is written. -/
def label (excerpt : Excerpt) : List Char :=
  Nat.toDigits 10 excerpt.number

/-- The bar that sets off the line, below the one beside the line number. -/
def gutter (excerpt : Excerpt) : List Char :=
  List.replicate (excerpt.label.length + 1) ' ' ++ ['|']

/-- The lines of an excerpt: an empty one, the line itself and the caret. -/
def lines (excerpt : Excerpt) : List (List Char) :=
  [ excerpt.gutter,
    excerpt.label ++ [' ', '|', ' '] ++ excerpt.text,
    excerpt.gutter ++ ' ' :: List.replicate excerpt.caret '-' ++ ['^'] ]

/-- The greatest width that can be filled up to. -/
def greatestWidth : Nat := 65535

/-- The width that the caret is filled up to. -/
def width (excerpt : Excerpt) : Nat :=
  excerpt.caret + 1

end Excerpt

/-- What is told about an error in a file. -/
structure Report where
  /-- The error. -/
  error : Error
  /-- The name of the file. -/
  file : String
  /-- The place of the error, if it has one. -/
  excerpt? : Option Excerpt

namespace Report

/-- The report of an error in a source text. -/
def ofError (error : Error) (source file : String) : Report :=
  { error
    file
    excerpt? := error.position?.bind (fun position =>
      (lineAt? source.toList position.line).map (fun line => Excerpt.ofLine line position)) }

/-- The first line: the name of the error and the tip. -/
def headline (report : Report) : String :=
  match report.error.tip? with
  | none => "Error: " ++ report.error.name
  | some tip => "Error: " ++ report.error.name ++ " (" ++ tip ++ ")"

/-- The lines of a report. -/
def lines (report : Report) : List (List Char) :=
  report.headline.toList :: ("-> " ++ report.file).toList ::
    (match report.excerpt? with
      | none => []
      | some excerpt => excerpt.lines)

/-- The text of a report, each line ended by a line feed. -/
def text (report : Report) : String :=
  String.ofList (report.lines.flatMap (fun line => line ++ ['\n']))

/-- The text as it is displayed; none if the caret is too far to the right. -/
def display? (report : Report) : Option String :=
  match report.excerpt? with
  | none => some report.text
  | some excerpt => if excerpt.width ≤ Excerpt.greatestWidth then some report.text else none

/-- What a program panics with that cannot display a report. -/
def panicMessage : String :=
  "Formatting argument out of range"

end Report
end Luso
