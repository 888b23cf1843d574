import Luso.Main
import Luso.Proofs.CommandLine.Agreement
import Luso.Proofs.CommandLine.Listing
import Luso.Proofs.CommandLine.SourceFile
import Luso.Proofs.Diagnostic.Caret
import Luso.Proofs.Diagnostic.Suggestion
import Luso.Proofs.Java.Execution
import Luso.Proofs.Java.Faithful
import Luso.Proofs.Java.Legible
import Luso.Proofs.Java.Lines
import Luso.Proofs.Java.Naming
import Luso.Proofs.Java.Preservation
import Luso.Proofs.Java.Resolution
import Luso.Proofs.Java.Stripping
import Luso.Proofs.Number.Range
import Luso.Proofs.Semantics.Dependence
import Luso.Proofs.Semantics.Frame
import Luso.Proofs.Semantics.Growth
import Luso.Proofs.Semantics.Reckoning
import Luso.Proofs.Semantics.StaticCheck
import Luso.Proofs.Source.Cursor
import Luso.Proofs.Syntax.Concatenation
import Luso.Proofs.Syntax.Depth
import Luso.Proofs.Syntax.Earliest
import Luso.Proofs.Syntax.Exactness
import Luso.Proofs.Syntax.Flattening
import Luso.Proofs.Syntax.Parallel
import Luso.Proofs.Syntax.Refusal
import Luso.Proofs.Syntax.Stopping
import Luso.Proofs.Syntax.WellFormed
import Luso.Proofs.Syntax.Yield
import Luso.Proofs.Text.CodeSet
import Luso.Proofs.Text.Residue
import Luso.Proofs.Token.Arrangement
import Luso.Proofs.Token.Display
import Luso.Proofs.Token.Lookahead
