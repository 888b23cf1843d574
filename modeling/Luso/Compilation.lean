import Luso.Diagnostic.Error
import Luso.Java.Generation
import Luso.Semantics.Analysis
import Luso.Syntax.Reading

/-!
# Compilation

A source text is read, analysed and turned into a Java class, or is refused with its first error.
-/

namespace Luso

/-- Read and analyse a source text. -/
def checkSource (source : String) : Except Error Program :=
  match parse source with
  | .error error => .error error.toError
  | .ok program =>
      match Program.analyze program with
      | .error error => .error (.semantic error)
      | .ok () => .ok program

/-- The Java class of the given name for a source text. -/
def compileSource (source className : String) : Except Error String :=
  match checkSource source with
  | .error error => .error error
  | .ok program => .ok (Program.toJava program className).text

end Luso
