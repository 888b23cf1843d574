import Luso.Text.Split
import Luso.Text.Uppercase

/-!
# File paths

A path is split at its slashes.  Apart from the first part, an empty part and a part `.` name no
step; so `a//b/./c/` leads where `a/b/c` leads.  What is kept of a path keeps its spelling.
-/

namespace Luso
namespace Path

/-- The parts of a path between its slashes. -/
def parts (path : List Char) : List (List Char) :=
  Text.split '/' path

/-- Whether a part, if it is not the first one, names no step. -/
def isIdle (part : List Char) : Bool :=
  part == [] || part == ['.']

/-- The parts of a path, last part first, up to the last one that names a step.  The first part of
the path is always kept. -/
def dropIdle : List (List Char) → List (List Char)
  | [] => []
  | [first] => [first]
  | last :: next :: before =>
      if isIdle last then dropIdle (next :: before) else last :: next :: before

/-- The parts of a path, last part first, from the last one that names a step. -/
def steps (path : List Char) : List (List Char) :=
  dropIdle (parts path).reverse

/-- The name at the end of a path; none if the path leads to its start, to the root or upwards. -/
def fileName? (path : List Char) : Option (List Char) :=
  match steps path with
  | [] => none
  | last :: _ => if isIdle last || last == ['.', '.'] then none else some last

/-- The directory in which the end of a path lies, empty for the current one. -/
def parent (path : List Char) : List Char :=
  match steps path with
  | [] => []
  | _ :: before =>
      match dropIdle before with
      | [[]] => ['/']
      | kept => Text.join '/' kept.reverse

/-- A file name without its extension, which is the part from the last dot on.  A dot at the start
makes no extension. -/
def stem (name : List Char) : List Char :=
  match name.reverse.dropWhile (· != '.') with
  | [] => name
  | _ :: before => if before = [] then name else before.reverse

/-- The path of a name in a directory. -/
def child (directory name : List Char) : List Char :=
  if directory = [] then name
  else if directory.getLast? = some '/' then directory ++ name
  else directory ++ '/' :: name

end Path

/-- The name of the class for a source file: the stem of the file with its first character in
upper case. -/
def className? (path : String) : Option String :=
  match (Path.fileName? path.toList).map Path.stem with
  | none | some [] => none
  | some (first :: rest) => some (String.ofList (Text.uppercase first ++ rest))

/-- The path of the generated file: named for the class, in the given directory or beside the
source file. -/
def outputPath? (path : String) (outDir? : Option String) : Option String :=
  let directory :=
    match outDir? with
    | some outDir => outDir.toList
    | none => Path.parent path.toList
  (className? path).map (fun name =>
    String.ofList (Path.child directory (name ++ ".java").toList))

end Luso
