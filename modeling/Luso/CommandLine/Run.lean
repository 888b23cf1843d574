import Luso.CommandLine.Files
import Luso.CommandLine.Options
import Luso.Compilation
import Luso.Diagnostic.Report

/-!
# Runs

A run reads one source file and writes at most one file.  Everything between the reading and the
writing is decided here, so that a run is the same over a model of the files and over real ones.
-/

namespace Luso
namespace CommandLine

/-- What a run leaves on the terminal. -/
structure Response where
  /-- The exit code. -/
  exitCode : UInt8
  /-- What is printed on the standard output. -/
  output : String
  /-- What is printed on the standard error: log lines without their time, and a panic by its message
  alone. -/
  errors : String
deriving DecidableEq

namespace Response

/-- A success that prints the given text. -/
def success (output : String) : Response :=
  { exitCode := 0, output, errors := "" }

/-- A failure that is reported by the given text. -/
def failure (output errors : String) : Response :=
  { exitCode := 1, output, errors }

/-- The end of a program that panics. -/
def panicked (output message : String) : Response :=
  { exitCode := 101, output, errors := message ++ "\n" }

/-- A failure that is reported, if the report can be displayed. -/
def reported (output : String) (report : Report) : Response :=
  match report.display? with
  | some text => failure output text
  | none => panicked output Report.panicMessage

/-- A failure to read or write a file. -/
def fault (activity path message : String) : Response :=
  failure "" ("ERROR " ++ activity ++ " " ++ Text.quoteString path ++ ": " ++ message ++ "\n")

/-- The answer to arguments that cannot be accepted. -/
def misuse : Response :=
  { exitCode := 2
    output := ""
    errors := "error: invalid arguments\n\nUsage: tcc [OPTIONS] <INPUT>\n" }

/-- The answer to a request for the version. -/
def version : Response :=
  success "tcc 0.1.0\n"

/-- The answer to a request for help. -/
def help : Response :=
  success
    ("Usage: tcc [OPTIONS] <INPUT>\n\nOptions:\n" ++
      "  -o, --out-dir <OUT_DIR>  Directory for the generated `.java` file\n" ++
      "      --check              Stop after semantic analysis\n" ++
      "      --tokens             Print the token stream and exit\n" ++
      "  -v, --verbose...         Increase log verbosity\n" ++
      "  -h, --help               Print help\n" ++
      "  -V, --version            Print version\n")

end Response

/-- What is left to do when the source file is read. -/
inductive Verdict where
  /-- Nothing but to answer. -/
  | answer (response : Response)
  /-- To write a file. -/
  | write (path text : String)
deriving DecidableEq

/-- The lines that list the tokens of a stream up to the first error, and that error. -/
def listTokens (stream : TokenStream) : List String × Option LexicalError :=
  match _handed : stream.next with
  | (.error error, _) => ([], some error)
  | (.ok none, _) => ([], none)
  | (.ok (some token), after) =>
      let (lines, error?) := listTokens after
      ((token.listing ++ "\n") :: lines, error?)
termination_by stream.size
decreasing_by exact TokenStream.next_size_lt _handed

/-- List the tokens of a source text. -/
def tokensResponse (source file : String) : Response :=
  match listTokens (TokenStream.ofSource source) with
  | (lines, none) => .success (String.join lines)
  | (lines, some error) =>
      .reported (String.join lines) (Report.ofError (.lexical error) source file)

/-- Decide what to do with a source text. -/
def Options.process (options : Options) (source : String) : Verdict :=
  if options.tokens then
    .answer (tokensResponse source options.input)
  else
    match checkSource source with
    | .error error => .answer (.reported "" (Report.ofError error source options.input))
    | .ok program =>
        if options.check then
          .answer (.success (options.input ++ ": ok\n"))
        else
          match className? options.input, outputPath? options.input options.outDir? with
          | some className, some path => .write path (Program.toJava program className).text
          | _, _ =>
              .answer (.failure ""
                ("ERROR cannot derive a class name from " ++ Text.quoteString options.input ++
                  "\n"))

/-- Decide what to do with what was read from the source file. -/
def Options.processBytes (options : Options) (contents : Except FileFault ByteArray) : Verdict :=
  match contents with
  | .error fault => .answer (.fault "reading" options.input fault.message)
  | .ok bytes =>
      match String.fromUTF8? bytes with
      | none => .answer (.fault "reading" options.input FileFault.notText.message)
      | some source => options.process source

/-- The answer after an attempt to write a file. -/
def Response.ofWriting (path : String) (written : Except FileFault Unit) : Response :=
  match written with
  | .error fault => .fault "writing" path fault.message
  | .ok () => .success ""

/-- A run over a model of the files: the answer and the files afterwards. -/
def Options.run (options : Options) (files : Files) : Response × Files :=
  match options.processBytes (files.read options.input) with
  | .answer response => (response, files)
  | .write path text =>
      match files.write path text.toUTF8 with
      | .error fault => (.ofWriting path (.error fault), files)
      | .ok written => (.ofWriting path (.ok ()), written)

/-- What the arguments ask for, done over a model of the files. -/
def run (arguments : List String) (files : Files) : Response × Files :=
  match Request.ofArguments arguments with
  | .misuse => (.misuse, files)
  | .version => (.version, files)
  | .help => (.help, files)
  | .run options => options.run files

end CommandLine
end Luso
