import Luso.CommandLine.Run

/-!
# The program

The command line over the real files: it reads and writes, and leaves every decision to the library.
-/

namespace Luso
namespace CommandLine

/-- The cause of a failed access to a file. -/
def FileFault.ofError : IO.Error → FileFault
  | .noFileOrDirectory _ _ _ => .notFound
  | .inappropriateType _ 20 _ => .notDirectory
  | .inappropriateType _ 21 _ => .isDirectory
  | error => .other (toString error)

/-- The bytes of a file. -/
def readBytes (path : String) : BaseIO (Except FileFault ByteArray) := do
  match ← (IO.FS.readBinFile path).toBaseIO with
  | .ok bytes => return .ok bytes
  | .error error => return .error (.ofError error)

/-- Write a file. -/
def writeText (path text : String) : BaseIO (Except FileFault Unit) := do
  match ← (IO.FS.writeFile path text).toBaseIO with
  | .ok () => return .ok ()
  | .error error => return .error (.ofError error)

/-- Do what the arguments ask for. -/
def perform (arguments : List String) : BaseIO Response := do
  match Request.ofArguments arguments with
  | .misuse => return .misuse
  | .version => return .version
  | .help => return .help
  | .run options =>
      match options.processBytes (← readBytes options.input) with
      | .answer response => return response
      | .write path text => return .ofWriting path (← writeText path text)

end CommandLine
end Luso

/-- Run the command line and print its answer. -/
def main (arguments : List String) : IO UInt32 := do
  let response ← Luso.CommandLine.perform arguments
  IO.print response.output
  IO.eprint response.errors
  return response.exitCode.toUInt32
