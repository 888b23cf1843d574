import Luso.Proofs.CommandLine.Decisions
import Luso.Proofs.Path.Course
import Luso.Proofs.Text.Uppercase
import Mathlib

/-!
# The destination of the generated file

A generated file is named for its class and lies in the directory that was asked for, or else in that of
the source file, whatever the paths look like.
-/

namespace Luso

/-! ## Stems -/

namespace Path

variable {name text extension : List Char}

theorem stem_prefix (name : List Char) : stem name <+: name := by
  rw [stem]
  split
  · exact List.prefix_refl name
  · rename_i dot before rest_eq
    split
    · exact List.prefix_refl name
    · have suffix : before <:+ name.reverse :=
        (List.suffix_cons dot before).trans (rest_eq ▸ List.dropWhile_suffix _)
      simpa using List.reverse_prefix.mpr suffix

/-- An extension that is added to a text is the one that its stem is without. -/
theorem stem_append_extension (nonempty : text ≠ []) (single : '.' ∉ extension) :
    stem (text ++ '.' :: extension) = text := by
  have dropped : (text ++ '.' :: extension).reverse.dropWhile (· != '.') = '.' :: text.reverse := by
    have skipped : ∀ character ∈ extension.reverse, (character != '.') = true := by
      intro character member
      rw [bne_iff_ne]
      rintro rfl
      exact single (List.mem_reverse.mp member)
    rw [List.reverse_append, List.reverse_cons, List.append_assoc,
      List.dropWhile_append_of_pos skipped]
    rfl
  rw [stem, dropped]
  simp [nonempty]

end Path

/-! ## Class names -/

variable {path : String} {name output : String}

/-- The name of the file that holds a class. -/
def classFile (name : String) : List Char :=
  name.toList ++ '.' :: "java".toList

theorem toList_append_java (name : String) : (name ++ ".java").toList = classFile name := by
  rw [String.toList_append]
  rfl

theorem stem_classFile (nonempty : name.toList ≠ []) :
    Path.stem (classFile name) = name.toList :=
  Path.stem_append_extension nonempty (by decide)

theorem className?_eq_some_iff : className? path = some name ↔
    ∃ file first rest, Path.fileName? path.toList = some file ∧ Path.stem file = first :: rest ∧
      name.toList = Text.uppercase first ++ rest := by
  rw [className?]
  cases Path.fileName? path.toList with
  | none => simp
  | some file =>
      cases stem_eq : Path.stem file with
      | nil => simp [stem_eq]
      | cons first rest => simp [stem_eq, String.ext_iff, eq_comm]

/-- The name of a class is a single part of a path. -/
theorem isName_classFile (named : className? path = some name) :
    Path.IsName (classFile name) ∧ name.toList ≠ [] := by
  obtain ⟨file, first, rest, found, stem_eq, name_eq⟩ := className?_eq_some_iff.mp named
  have noSlash : '/' ∉ first :: rest := by
    intro slash
    rw [← stem_eq] at slash
    exact (Path.parts_of_fileName? found).1.not_slash ((Path.stem_prefix file).mem slash)
  have nonempty : name.toList ≠ [] := by
    simp [name_eq, Text.uppercase_ne_nil]
  rw [List.mem_cons, not_or] at noSlash
  have ending : (classFile name).getLast? = some 'a' := by
    simp [classFile]
  refine ⟨⟨?_, ?_, ?_⟩, nonempty⟩
  · rw [Path.isIdle, Bool.or_eq_false_iff, beq_eq_false_iff_ne, beq_eq_false_iff_ne]
    constructor
    · intro blank
      exact absurd (blank ▸ ending) (by decide)
    · intro dot
      exact absurd (dot ▸ ending) (by decide)
  · intro up
    exact absurd (up ▸ ending) (by decide)
  · rw [classFile, name_eq]
    simp [Text.not_mem_uppercase (Ne.symm noSlash.1), noSlash.2]

/-! ## Output paths -/

/-- The directory for the generated file. -/
def outputDirectory (path : String) (outDir? : Option String) : List Char :=
  outDir?.elim (Path.parent path.toList) String.toList

theorem outputPath?_eq (path : String) (outDir? : Option String) :
    outputPath? path outDir? =
      (className? path).map fun name =>
        String.ofList (Path.child (outputDirectory path outDir?) (classFile name)) := by
  rw [outputPath?.eq_def]
  simp only [toList_append_java]
  cases outDir? <;> rfl

theorem outputPath?_eq_some_iff {outDir? : Option String} : outputPath? path outDir? = some output ↔
    ∃ name, className? path = some name ∧
      output.toList = Path.child (outputDirectory path outDir?) (classFile name) := by
  rw [outputPath?_eq, Option.map_eq_some_iff]
  simp only [String.ext_iff, String.toList_ofList, eq_comm]

/-- The text of a class starts with its name. -/
theorem header_prefix_text (program : Program) (name : String) :
    "public class ".toList ++ name.toList ++ " \x7b\n".toList <+:
      (program.toJava name).text.toList := by
  have text_eq : (program.toJava name).text.toList = (program.toJava name).write :=
    String.toList_ofList
  rw [text_eq]
  unfold Java.MainClass.write
  exact (List.prefix_append _ _).trans ((List.prefix_append _ _).trans (List.prefix_append _ _))

/-- There is a path for the generated file exactly if there is a name for the class.  It leads to the
file of the class in the directory asked for, or in that of the source file, and the stem of the file is
the name of the class in every text that is written to it. -/
theorem outputPath_names_class (path : String) (outDir? : Option String) :
    ((outputPath? path outDir?).isSome ↔ (className? path).isSome) ∧
    ∀ output, outputPath? path outDir? = some output →
      ∃ name, className? path = some name ∧
        Path.fileName? output.toList = some (name ++ ".java").toList ∧
        (Path.fileName? output.toList).map Path.stem = some name.toList ∧
        Path.course (Path.parent output.toList) = Path.course (outputDirectory path outDir?) ∧
        ∀ check tokens contents target text,
          CommandLine.Options.processBytes ⟨path, outDir?, check, tokens⟩ contents =
            .write target text →
          target = output ∧
            "public class ".toList ++ name.toList ++ " \x7b\n".toList <+: text.toList := by
  constructor
  · rw [outputPath?_eq, Option.isSome_map]
  · intro output placed
    obtain ⟨name, named, output_eq⟩ := outputPath?_eq_some_iff.mp placed
    obtain ⟨isName, nonempty⟩ := isName_classFile named
    have found : Path.fileName? output.toList = some (classFile name) := by
      rw [output_eq, Path.fileName?_child isName]
    refine ⟨name, named, ?_, ?_, ?_, ?_⟩
    · rw [found, toList_append_java]
    · rw [found, Option.map_some, stem_classFile nonempty]
    · -- The same name ends the path of the file and the way through the directory.
      have ends := Path.course_of_fileName? found
      rw [output_eq, Path.course_child isName] at ends
      rw [output_eq]
      exact (Path.Course.enter_inj.mp ends.symm).1
    · intro check tokens contents target text decided
      have writes := CommandLine.Options.writes_of_processBytes decided
      obtain ⟨other, program, other_named, rfl⟩ := writes.generated
      obtain rfl := Option.some.inj (named.symm.trans other_named)
      exact ⟨Option.some.inj (writes.placed.symm.trans placed), header_prefix_text program name⟩

/-- A first letter with two capitals, a second dot, an idle part behind the source file and a slash behind
the directory. -/
theorem outputPath_names_class_expanded :
    outputPath? "d/ßx.v2.tcc/." (some "é/") = some "é/SSx.v2.java" ∧
    className? "d/ßx.v2.tcc/." = some "SSx.v2" ∧
    Path.fileName? "é/SSx.v2.java".toList = some "SSx.v2.java".toList ∧
    Path.course (Path.parent "é/SSx.v2.java".toList) = Path.course "é/".toList ∧
    CommandLine.Options.processBytes ⟨"d/ßx.v2.tcc/.", some "é/", false, false⟩ (.ok "1".toUTF8) =
      .write "é/SSx.v2.java" (Program.toJava [.expression (.integer 1)] "SSx.v2").text ∧
    "public class ".toList ++ "SSx.v2".toList ++ " \x7b\n".toList <+:
      (Program.toJava [.expression (.integer 1)] "SSx.v2").text.toList := by
  obtain ⟨placed, named, checked⟩ :
      outputPath? "d/ßx.v2.tcc/." (some "é/") = some "é/SSx.v2.java" ∧
      className? "d/ßx.v2.tcc/." = some "SSx.v2" ∧
      checkSource "1" = .ok [.expression (.integer 1)] := by
    refine ⟨?_, ?_, ?_⟩ <;> cbv
  have decided : CommandLine.Options.processBytes ⟨"d/ßx.v2.tcc/.", some "é/", false, false⟩
      (.ok "1".toUTF8) =
      .write "é/SSx.v2.java" (Program.toJava [.expression (.integer 1)] "SSx.v2").text :=
    CommandLine.Options.processBytes_of_checkSource rfl rfl checked named placed
  obtain ⟨name, name_eq, file, -, lies, writes⟩ :=
    (outputPath_names_class "d/ßx.v2.tcc/." (some "é/")).2 "é/SSx.v2.java" placed
  obtain rfl := Option.some.inj (named.symm.trans name_eq)
  exact ⟨placed, named, file, lies, decided, (writes _ _ _ _ _ decided).2⟩

end Luso
