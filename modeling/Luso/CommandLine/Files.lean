import Luso.Path

/-!
# Files

A working directory with everything in it and the directories outside of it, as far as a program can
see them: regular files with their bytes, and directories.  A path leads from the root or from the
working directory, and both kinds of paths may lead to the same file.
-/

namespace Luso
namespace CommandLine

/-- Why a file cannot be read or written. -/
inductive FileFault where
  /-- There is no such file, or no such directory on the way to it. -/
  | notFound
  /-- Something on the way is not a directory. -/
  | notDirectory
  /-- It is a directory. -/
  | isDirectory
  /-- A name is too long. -/
  | nameTooLong
  /-- The file does not hold UTF-8 text. -/
  | notText
  /-- Another cause, in the words of the system. -/
  | other (message : String)
deriving DecidableEq

/-- The words for a cause. -/
def FileFault.message : FileFault → String
  | .notFound => "No such file or directory (os error 2)"
  | .notDirectory => "Not a directory (os error 20)"
  | .isDirectory => "Is a directory (os error 21)"
  | .nameTooLong => "File name too long (os error 36)"
  | .notText => "stream did not contain valid UTF-8"
  | .other message => message

/-- The names that lead somewhere from a directory. -/
abbrev Location := List String

/-- Where something lies. -/
inductive Place where
  /-- In the working directory, or that directory itself. -/
  | inside (location : Location)
  /-- Outside of it, as seen from the root. -/
  | outside (location : Location)
deriving DecidableEq

/-- A regular file or a directory. -/
inductive Node where
  /-- A regular file with its bytes. -/
  | file (bytes : ByteArray)
  /-- A directory. -/
  | directory

/-- What lies in a working directory and outside of it; of two entries for a location the first one
counts. -/
structure Files where
  /-- What lies where in the working directory. -/
  entries : List (Location × Node)
  /-- What lies where outside of it, as seen from the root. -/
  outer : List (Location × Node) := []
  /-- The names that lead from the root to the working directory.  No path spells the empty name, so
  by default the working directory is never entered from above. -/
  home : Location := [""]

/-- Where a path leads. -/
inductive Target where
  /-- To a regular file. -/
  | file (place : Place) (bytes : ByteArray)
  /-- To a directory. -/
  | directory
  /-- To a name in a directory that nothing there has. -/
  | vacant (place : Place)

namespace Files

/-- The names that lead from the root to a place. -/
def fromRoot (files : Files) (place : Place) : Location :=
  match place with
  | .inside location => files.home ++ location
  | .outside location => location

/-- The place to which names lead from the root. -/
def place (files : Files) (location : Location) : Place :=
  if files.home.isPrefixOf location then .inside (location.drop files.home.length)
  else .outside location

/-- The directory above one.  The one above the root is the root. -/
def parent (files : Files) (directory : Place) : Place :=
  files.place (files.fromRoot directory).dropLast

/-- What has the given name in a directory. -/
def child (files : Files) (directory : Place) (name : String) : Place :=
  files.place (files.fromRoot directory ++ [name])

/-- What lies at a place.  The root and the directories above the working directory exist. -/
def node? (files : Files) (place : Place) : Option Node :=
  match place with
  | .inside [] => some .directory
  | .inside location => files.entries.lookup location
  | .outside location =>
      if location.isPrefixOf files.home then some .directory else files.outer.lookup location

/-- Put a regular file at a place. -/
def put (files : Files) (place : Place) (bytes : ByteArray) : Files :=
  match place with
  | .inside location => { files with entries := (location, .file bytes) :: files.entries }
  | .outside location => { files with outer := (location, .file bytes) :: files.outer }

/-- The greatest number of bytes in a name. -/
def nameLimit : Nat := 255

/-- The greatest number of bytes in a path. -/
def pathLimit : Nat := 4095

/-- Where the parts of a path lead from a directory. -/
def walk (files : Files) (directory : Place) : List (List Char) → Except FileFault Target
  | [] => .ok .directory
  | part :: rest =>
      if Path.isIdle part then
        files.walk directory rest
      else if part = ['.', '.'] then
        files.walk (files.parent directory) rest
      else
        let name := String.ofList part
        let place := files.child directory name
        if nameLimit < name.utf8ByteSize then
          .error .nameTooLong
        else
          match files.node? place with
          | some .directory => files.walk place rest
          | some (.file bytes) =>
              if rest = [] then .ok (.file place bytes) else .error .notDirectory
          | none => if rest = [] then .ok (.vacant place) else .error .notFound

/-- Where a path leads. -/
def resolve (files : Files) (path : String) : Except FileFault Target :=
  if pathLimit < path.utf8ByteSize then
    .error .nameTooLong
  else
    match path.toList with
    | [] => .error .notFound
    | '/' :: text => files.walk (files.place []) (Path.parts text)
    | text => files.walk (.inside []) (Path.parts text)

/-- The bytes of the file to which a path leads. -/
def read (files : Files) (path : String) : Except FileFault ByteArray :=
  match files.resolve path with
  | .error fault => .error fault
  | .ok (.file _ bytes) => .ok bytes
  | .ok .directory => .error .isDirectory
  | .ok (.vacant _) => .error .notFound

/-- Make the file to which a path leads hold the given bytes; it is created if need be. -/
def write (files : Files) (path : String) (bytes : ByteArray) : Except FileFault Files :=
  match files.resolve path with
  | .error fault => .error fault
  | .ok (.file place _) => .ok (files.put place bytes)
  | .ok .directory => .error .isDirectory
  | .ok (.vacant place) => .ok (files.put place bytes)

end Files
end CommandLine
end Luso
