import Luso.CommandLine.Run
import Luso.Proofs.Diagnostic.Caret

/-!
# Decisions

What was read from the source file decides what a run does: it answers, or it writes the generated file
first.  Only a run that is asked for neither a list of tokens nor a mere check gets to write, and what it
writes is the class that is named for the source file.  An error is answered with its report, unless this
cannot be displayed.
-/

namespace Luso
namespace CommandLine

variable {options : Options} {files written : Files} {path text : String} {response : Response}

/-! ### Errors -/

/-- A response to an error in a source text: its report, or a panic if no caret can be put at its
place. -/
structure Response.Reports (response : Response) (error : Error) (source file : String) : Prop where
  /-- If the report can be displayed, it is printed, and the run fails. -/
  displayed : ¬ error.OutOfReach source → response.exitCode = 1 ∧
    (Report.ofError error source file).display? = some response.errors
  /-- Otherwise the program panics. -/
  panics : error.OutOfReach source → response.exitCode = 101 ∧
    response.errors = Report.panicMessage ++ "\n" ∧ (Report.ofError error source file).display? = none

theorem Response.output_reported (output : String) (report : Report) :
    (reported output report).output = output := by
  rw [reported]
  split <;> rfl

theorem Response.reports_reported (output : String) (error : Error) (source file : String) :
    (reported output (Report.ofError error source file)).Reports error source file := by
  constructor
  · intro within
    have shows : (Report.ofError error source file).display? =
        some (Report.ofError error source file).text :=
      Report.display?_eq_some_iff.mpr ⟨within, rfl⟩
    rw [reported, shows]
    exact ⟨rfl, rfl⟩
  · intro beyond
    have shows : (Report.ofError error source file).display? = none :=
      Report.display?_eq_none_iff.mpr beyond
    rw [reported, shows]
    exact ⟨rfl, rfl, rfl⟩

/-! ### Texts -/

theorem Options.processBytes_toUTF8 (source : String) :
    options.processBytes (.ok source.toUTF8) = options.process source := by
  have text : String.fromUTF8? source.toUTF8 = some source := dif_pos source.isValidUTF8
  simp only [Options.processBytes, text]

/-- A correct program is written to its file, if nothing else is asked for. -/
theorem Options.processBytes_of_checkSource {source className : String} {program : Program}
    (tokens : options.tokens = false) (check : options.check = false)
    (checked : checkSource source = .ok program) (named : className? options.input = some className)
    (placed : outputPath? options.input options.outDir? = some path) :
    options.processBytes (.ok source.toUTF8) = .write path (program.toJava className).text := by
  rw [processBytes_toUTF8, process, tokens, checked]
  simp only [check, named, placed]
  rfl

/-- A run that gets to write is asked for the class, and writes it to the file that is named for it. -/
structure Options.Writes (options : Options) (path text : String) : Prop where
  /-- It is not asked for a list of tokens. -/
  tokens : options.tokens = false
  /-- It is not asked for a mere check. -/
  check : options.check = false
  /-- The file lies where it should. -/
  placed : outputPath? options.input options.outDir? = some path
  /-- The file holds a class that is named for the source file. -/
  generated : ∃ name program, className? options.input = some name ∧
    text = (Program.toJava program name).text

theorem Options.writes_of_processBytes {contents : Except FileFault ByteArray}
    (decided : options.processBytes contents = .write path text) : options.Writes path text := by
  rw [Options.processBytes.eq_def] at decided
  split at decided
  · cases decided
  split at decided
  · cases decided
  rw [Options.process] at decided
  split at decided
  · cases decided
  · rename_i tokens
    split at decided
    · cases decided
    · rename_i program _
      split at decided
      · cases decided
      · rename_i check
        split at decided
        · rename_i name target named placed
          cases decided
          exact ⟨by simpa using tokens, by simpa using check, placed, name, program, named, rfl⟩
        · cases decided

/-- Only a run that is asked for neither a list of tokens nor a mere check gets to write. -/
theorem Options.processBytes_eq_write {contents : Except FileFault ByteArray}
    (decided : options.processBytes contents = .write path text) :
    options.tokens = false ∧ options.check = false := by
  have writes := Options.writes_of_processBytes decided
  exact ⟨writes.tokens, writes.check⟩

/-! ### Runs -/

theorem Options.run_of_answer
    (decided : options.processBytes (files.read options.input) = .answer response) :
    options.run files = (response, files) := by
  rw [Options.run, decided]

theorem Options.run_of_write
    (decided : options.processBytes (files.read options.input) = .write path text)
    (stored : files.write path text.toUTF8 = .ok written) :
    options.run files = (.success "", written) := by
  rw [Options.run, decided]
  simp only [stored]
  rfl

end CommandLine
end Luso
