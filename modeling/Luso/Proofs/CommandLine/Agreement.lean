import Luso.Proofs.CommandLine.Decisions
import Luso.Proofs.CommandLine.Files
import Luso.Proofs.Compilation
import Luso.Proofs.Diagnostic.Overlong
import Mathlib

/-!
# Runs and compilation

A run takes a source text through the stages of the compilation one by one, and leaves them early if
it is asked to.  In the end it does what compiling the text at once says: it prints the report of the
error, or panics if that cannot be displayed, or it writes the Java class.  A run that fails leaves all
files alone.
-/

namespace Luso

theorem exists_outputPath? {input className : String} (named : className? input = some className)
    (outDir? : Option String) : ∃ path, outputPath? input outDir? = some path := by
  simp [outputPath?, named]

namespace CommandLine

variable {options : Options} {files : Files} {source className path : String}

/-! ### Decisions -/

/-- Without a list of tokens, the compilation decides. -/
theorem Options.process_eq (tokens : options.tokens = false)
    (named : className? options.input = some className)
    (placed : outputPath? options.input options.outDir? = some path) :
    options.process source =
      match compileSource source className with
      | .error error => .answer (.reported "" (Report.ofError error source options.input))
      | .ok text =>
          if options.check then .answer (.success (options.input ++ ": ok\n"))
          else .write path text := by
  rw [Options.process, tokens, compileSource]
  cases checkSource source with
  | error error => rfl
  | ok program =>
      rw [named, placed]
      rfl

/-! ### Runs -/

/-- A run that fails leaves all files alone. -/
theorem Options.run_files_of_failure (failed : (options.run files).1.exitCode ≠ 0) :
    (options.run files).2 = files := by
  revert failed
  rw [Options.run]
  split
  · simp
  · split
    · simp
    · intro failed
      exact absurd rfl failed

/-- A run does what compiling the text of the source file says: the report of an error goes to the
standard error, if it can be displayed, and a Java class, unless only a check is asked for, to the file
named for it.  No other file changes.  A list of tokens and a run that fails change no file at all. -/
theorem Options.run_agrees_with_compileSource (options : Options) (files : Files) :
    (options.tokens = true → (options.run files).2 = files) ∧
    ((options.run files).1.exitCode ≠ 0 → (options.run files).2 = files) ∧
    (options.tokens = false → ∀ source className,
      files.read options.input = .ok source.toUTF8 → className? options.input = some className →
      (∀ error, compileSource source className = .error error →
        ∃ response, options.run files = (response, files) ∧ response.output = "" ∧
          response.Reports error source options.input) ∧
      (∀ text, compileSource source className = .ok text →
        (options.check = true →
          options.run files = (.success (options.input ++ ": ok\n"), files)) ∧
        (options.check = false →
          ∃ path, outputPath? options.input options.outDir? = some path ∧
            ∀ written, files.write path text.toUTF8 = .ok written →
              options.run files = (.success "", written) ∧
                files.Stores path text.toUTF8 written))) := by
  refine ⟨?_, run_files_of_failure, ?_⟩
  · intro tokens
    cases decided : options.processBytes (files.read options.input) with
    | answer response => rw [Options.run_of_answer decided]
    | write path text =>
        have listed := (Options.processBytes_eq_write decided).1
        simp [tokens] at listed
  · intro tokens source className readable named
    obtain ⟨path, placed⟩ := exists_outputPath? named options.outDir?
    have decided : options.processBytes (files.read options.input) = options.process source := by
      rw [readable, Options.processBytes_toUTF8]
    rw [Options.process_eq tokens named placed] at decided
    constructor
    · intro error refused
      rw [refused] at decided
      exact ⟨_, Options.run_of_answer decided, Response.output_reported _ _,
        Response.reports_reported _ _ _ _⟩
    · intro text compiled
      simp only [compiled] at decided
      constructor
      · intro check
        rw [if_pos check] at decided
        exact Options.run_of_answer decided
      · intro check
        simp only [check, Bool.false_eq_true, if_false] at decided
        refine ⟨path, placed, ?_⟩
        intro written stored
        exact ⟨Options.run_of_write decided stored, Files.stores_of_write stored⟩

/-- A correct and a wrong source file, and a directory for the generated files. -/
def desk : Files :=
  { entries :=
      [ (["soma.tcc"], .file "1".toUTF8), (["erro.tcc"], .file "@".toUTF8),
        (["saida"], .directory) ] }

/-- The correct file gives a Java class in the given directory and passes the check, the wrong one
is reported, and a list of its tokens changes nothing either. -/
theorem Options.run_agrees_with_compileSource_desk :
    (∃ written,
      Options.run ⟨"soma.tcc", some "saida", false, false⟩ desk = (.success "", written) ∧
        written.read "saida/Soma.java" =
          .ok (Program.toJava [.expression (.integer 1)] "Soma").text.toUTF8 ∧
        written.read "erro.tcc" = .ok "@".toUTF8) ∧
    Options.run ⟨"soma.tcc", none, true, false⟩ desk = (.success "soma.tcc: ok\n", desk) ∧
    (∃ response, Options.run ⟨"erro.tcc", none, false, false⟩ desk = (response, desk) ∧
      response.exitCode = 1 ∧ response.output = "" ∧
      (Report.ofError (.lexical (.unrecognisedCharacter '@' { line := 1, column := 0 })) "@"
        "erro.tcc").display? = some response.errors) ∧
    (Options.run ⟨"erro.tcc", none, false, true⟩ desk).2 = desk := by
  obtain ⟨readable, named, placed, checked⟩ :
      desk.read "soma.tcc" = .ok "1".toUTF8 ∧ className? "soma.tcc" = some "Soma" ∧
      outputPath? "soma.tcc" (some "saida") = some "saida/Soma.java" ∧
      checkSource "1" = .ok [.expression (.integer 1)] := by
    refine ⟨?_, ?_, ?_, ?_⟩ <;> cbv
  obtain ⟨unreadable, ill_named, refused⟩ :
      desk.read "erro.tcc" = .ok "@".toUTF8 ∧ className? "erro.tcc" = some "Erro" ∧
      compileSource "@" "Erro" =
        .error (.lexical (.unrecognisedCharacter '@' { line := 1, column := 0 })) := by
    refine ⟨?_, ?_, ?_⟩ <;> cbv
  have compiled := compileSource_eq_ok_iff.mpr ⟨_, checked, @rfl _ (Program.toJava _ "Soma").text⟩
  refine ⟨?_, ?_, ?_, ?_⟩
  · have outcome := ((run_agrees_with_compileSource ⟨"soma.tcc", some "saida", false, false⟩ desk).2.2
      rfl "1" "Soma" readable named).2 _ compiled
    obtain ⟨path, found, stores⟩ := outcome.2 rfl
    obtain rfl := Option.some.inj (placed.symm.trans found)
    obtain ⟨run, stored⟩ := stores (desk.put (.inside ["saida", "Soma.java"]) _) (by rfl)
    exact ⟨_, run, stored.read_eq, rfl⟩
  · exact (((run_agrees_with_compileSource ⟨"soma.tcc", none, true, false⟩ desk).2.2
      rfl "1" "Soma" readable named).2 _ compiled).1 rfl
  · obtain ⟨response, run_eq, output_eq, reports⟩ :=
      ((run_agrees_with_compileSource ⟨"erro.tcc", none, false, false⟩ desk).2.2
        rfl "@" "Erro" unreadable ill_named).1 _ refused
    obtain ⟨exitCode_eq, displayed⟩ :=
      reports.displayed (Error.not_outOfReach_of_lt rfl (by decide))
    exact ⟨response, run_eq, exitCode_eq, output_eq, displayed⟩
  · exact (run_agrees_with_compileSource ⟨"erro.tcc", none, false, true⟩ desk).1 rfl

/-- A source file with the given text. -/
def longFiles (text : String) : Files :=
  { entries := [(["longa.tcc"], .file text.toUTF8)] }

/-- If the name in front of a stray sign has as many letters as the greatest width, then the sign cannot be
reported, and the run panics instead. -/
theorem Options.run_agrees_with_compileSource_overlong :
    (longFiles (overlong Excerpt.greatestWidth)).read "longa.tcc" =
      .ok (overlong Excerpt.greatestWidth).toUTF8 ∧
    className? "longa.tcc" = some "Longa" ∧
    compileSource (overlong Excerpt.greatestWidth) "Longa" =
      .error (.lexical (.unrecognisedCharacter '@' { line := 1, column := Excerpt.greatestWidth })) ∧
    (Options.run ⟨"longa.tcc", none, false, false⟩
      (longFiles (overlong Excerpt.greatestWidth))).1.errors = Report.panicMessage ++ "\n" ∧
    (Options.run ⟨"longa.tcc", none, false, false⟩
      (longFiles (overlong Excerpt.greatestWidth))).1.exitCode = 101 ∧
    (Options.run ⟨"longa.tcc", none, false, false⟩
      (longFiles (overlong Excerpt.greatestWidth))).1.exitCode ≠ 1 := by
  have readable (text : String) : (longFiles text).read "longa.tcc" = .ok text.toUTF8 := by
    cbv
  obtain ⟨named, placed⟩ :
      className? "longa.tcc" = some "Longa" ∧ outputPath? "longa.tcc" none = some "Longa.java" := by
    refine ⟨?_, ?_⟩ <;> cbv
  have refused := @compileSource_overlong Excerpt.greatestWidth (by decide) "Longa"
  have decided : Options.processBytes ⟨"longa.tcc", none, false, false⟩
      ((longFiles (overlong Excerpt.greatestWidth)).read "longa.tcc") =
        .answer (.reported "" (Report.ofError
          (.lexical (.unrecognisedCharacter '@' { line := 1, column := Excerpt.greatestWidth }))
          (overlong Excerpt.greatestWidth) "longa.tcc")) := by
    rw [readable, processBytes_toUTF8, process_eq rfl named placed, refused]
  obtain ⟨exitCode_eq, errors_eq, -⟩ := (Response.reports_reported "" _ _ "longa.tcc").panics
    (outOfReach_overlong_iff.mpr (Nat.le_refl Excerpt.greatestWidth))
  rw [run_of_answer decided]
  refine ⟨readable _, named, refused, errors_eq, exitCode_eq, ?_⟩
  rw [exitCode_eq]
  decide

end CommandLine
end Luso
