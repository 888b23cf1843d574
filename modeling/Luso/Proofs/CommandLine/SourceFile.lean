import Luso.Proofs.CommandLine.Files
import Luso.Proofs.CommandLine.Decisions
import Luso.Proofs.Path.Destination

/-!
# The source file after a run

Without another directory, the generated file lies beside the source file.  It is a file of its own, and
the source file keeps its contents, unless the source file already has the name of its own class: then the
paths are the same, and the class replaces its source.
-/

namespace Luso

open Luso.Path (Course IsName)

namespace CommandLine
namespace Files

variable {files : Files} {directory place : Place} {parts : List (List Char)} {path : String}
  {target : Target}

/-! ## Where a course leads -/

/-- Where the parts of a path lead from a directory, if all directories on the way exist. -/
def descend (files : Files) (directory : Place) : List (List Char) → Place
  | [] => directory
  | part :: rest =>
      if Path.isIdle part then
        files.descend directory rest
      else if part = ['.', '.'] then
        files.descend (files.parent directory) rest
      else
        files.descend (files.child directory (String.ofList part)) rest

/-- Where a course leads from the root or from the working directory. -/
def reach (files : Files) (course : Course) : Place :=
  files.descend (if course.fromRoot then files.place [] else .inside []) course.names

/-- A path that leads to a file, or to where there could be one, leads there step by step. -/
theorem descend_of_walk (walked : files.walk directory parts = .ok target)
    (leads : target.place? = some place) : files.descend directory parts = place := by
  fun_induction walk files directory parts with
  | case1 => cases walked; cases leads
  | case2 directory part rest idle induction =>
      rw [descend, if_pos idle]
      exact induction walked
  | case3 directory rest idle induction =>
      rw [descend, if_neg idle, if_pos rfl]
      exact induction walked
  | case4 => cases walked
  | case5 _ _ _ idle up _ _ _ _ induction =>
      rw [descend, if_neg idle, if_neg up]
      exact induction walked
  | case6 _ _ idle up =>
      cases walked
      rw [descend, if_neg idle, if_neg up]
      exact Option.some.inj leads
  | case7 => cases walked
  | case8 _ _ idle up =>
      cases walked
      rw [descend, if_neg idle, if_neg up]
      exact Option.some.inj leads
  | case9 => cases walked

theorem descend_append (files : Files) (directory : Place) (front behind : List (List Char)) :
    files.descend directory (front ++ behind) =
      files.descend (files.descend directory front) behind := by
  induction front generalizing directory with
  | nil => rfl
  | cons part rest induction =>
      rw [List.cons_append, descend, descend]
      split
      · exact induction directory
      · split
        · exact induction _
        · exact induction _

/-- Parts that name no step do not matter. -/
theorem descend_filter (files : Files) (directory : Place) (parts : List (List Char)) :
    files.descend directory (parts.filter (!Path.isIdle ·)) = files.descend directory parts := by
  induction parts generalizing directory with
  | nil => rfl
  | cons part rest induction =>
      by_cases idle : Path.isIdle part = true
      · simp [descend, idle, induction]
      · simp [descend, idle, induction]

theorem descend_ofParts (files : Files) (directory : Place) (parts : List (List Char)) :
    files.descend directory (Course.ofParts parts).names = files.descend directory parts := by
  cases parts with
  | nil => rfl
  | cons first rest =>
      rw [Course.ofParts, descend_append, descend_filter]
      by_cases blank : first = []
      · subst blank; rfl
      · rw [if_neg blank, ← descend_append]
        rfl

/-- What a path says is where it leads. -/
theorem reach_of_resolve (resolved : files.resolve path = .ok target)
    (leads : target.place? = some place) : files.reach (Path.course path.toList) = place := by
  have fromRoot := Path.fromRoot_course path.toList
  rw [reach, Path.course, descend_ofParts, ← Path.course]
  rw [resolve] at resolved
  split at resolved
  · cases resolved
  split at resolved
  · cases resolved
  · rename_i text path_eq
    rw [path_eq] at fromRoot ⊢
    rw [if_pos (fromRoot.mpr rfl)]
    exact descend_of_walk resolved leads
  · rename_i notSlash
    rw [if_neg]
    · exact descend_of_walk resolved leads
    · intro rooted
      obtain ⟨text, path_eq⟩ := List.head?_eq_some_iff.mp (fromRoot.mp rooted)
      exact notSlash text path_eq

/-! ## Names in a directory -/

theorem place_injective (files : Files) : files.place.Injective := by
  intro first second same
  rw [place, place] at same
  split at same
  · rename_i inFirst
    split at same
    · rename_i inSecond
      rw [List.isPrefixOf_iff_prefix, List.prefix_iff_eq_append] at inFirst inSecond
      rw [← inFirst, ← inSecond, Place.inside.inj same]
    · cases same
  · split at same
    · cases same
    · exact Place.outside.inj same

theorem child_injective (files : Files) (directory : Place) :
    (files.child directory).Injective := by
  intro first second same
  exact List.singleton_inj.mp (List.append_cancel_left (files.place_injective same))

theorem reach_enter {name : List Char} (isName : IsName name) (course : Course) :
    files.reach (course.enter name) = files.child (files.reach course) (String.ofList name) := by
  rw [reach, Course.enter, descend_append, descend, if_neg, if_neg isName.not_up]
  · rfl
  · rw [isName.not_idle]
    exact Bool.false_ne_true

/-- Different names lead to different places. -/
theorem reach_enter_inj {first second : List Char} (isName : IsName first) (isName' : IsName second)
    (course : Course) :
    files.reach (course.enter first) = files.reach (course.enter second) ↔ first = second := by
  rw [reach_enter isName, reach_enter isName']
  constructor
  · intro same
    exact String.ofList_injective (files.child_injective _ same)
  · rintro rfl
    rfl

theorem read_eq_ok_iff {bytes : ByteArray} :
    files.read path = .ok bytes ↔ ∃ place, files.resolve path = .ok (.file place bytes) := by
  rw [read]
  split
  · rename_i resolved
    simp [resolved]
  · rename_i place contents resolved
    simp [resolved]
  · rename_i resolved
    simp [resolved]
  · rename_i resolved
    simp [resolved]

end Files
end CommandLine

/-! ## Beside the source file -/

/-- A file has the name of its own class: its extension is `java`, and its first character is its own
upper case. -/
def Path.NamedForClass (path : List Char) : Prop :=
  ∃ first rest, fileName? path = some (first :: rest ++ ".java".toList) ∧
    Text.uppercase first = [first]

section Beside

variable {path output : String} {outDir? : Option String}

theorem classFile_eq_fileName_iff {name : String} {file : List Char}
    (found : Path.fileName? path.toList = some file) (named : className? path = some name) :
    classFile name = file ↔ Path.NamedForClass path.toList := by
  obtain ⟨file', first, rest, found', stem_eq, name_eq⟩ := className?_eq_some_iff.mp named
  obtain rfl := Option.some.inj (found.symm.trans found')
  rw [classFile, name_eq, Path.NamedForClass]
  constructor
  · intro same
    -- The file starts with its stem, so the first capital is the first character.
    obtain ⟨behind, front_eq⟩ := Path.stem_prefix file
    obtain ⟨capital, capitals, upper⟩ := List.exists_cons_of_ne_nil (Text.uppercase_ne_nil first)
    rw [stem_eq, ← same, upper] at front_eq
    obtain ⟨rfl, -⟩ := List.cons.inj front_eq
    have own := Text.uppercase_eq_singleton upper
    refine ⟨first, rest, ?_, own⟩
    rw [found, ← same, own]
    rfl
  · rintro ⟨first', rest', found', own⟩
    obtain rfl := Option.some.inj (found.symm.trans found')
    have stem_eq' : Path.stem (first' :: rest' ++ ".java".toList) = first' :: rest' :=
      Path.stem_append_extension (List.cons_ne_nil _ _) (by decide)
    obtain ⟨rfl, rfl⟩ := List.cons.inj (stem_eq.symm.trans stem_eq')
    rw [own]
    rfl

/-- The generated file lies in the directory of the source file. -/
def Beside (path : String) (outDir? : Option String) : Prop :=
  outDir? = none ∨ outDir? = some (String.ofList (Path.parent path.toList))

theorem Beside.outputDirectory_eq (beside : Beside path outDir?) :
    outputDirectory path outDir? = Path.parent path.toList := by
  obtain rfl | rfl := beside
  · rfl
  · exact String.toList_ofList

/-- Both paths are names in one directory. -/
theorem Beside.exists_courses (beside : Beside path outDir?)
    (placed : outputPath? path outDir? = some output) :
    ∃ (course : Course) (file file' : List Char), IsName file ∧ IsName file' ∧
      Path.course path.toList = course.enter file ∧
      Path.course output.toList = course.enter file' ∧
      (file' = file ↔ Path.NamedForClass path.toList) := by
  obtain ⟨name, named, output_eq⟩ := outputPath?_eq_some_iff.mp placed
  obtain ⟨file, -, -, found, -, -⟩ := className?_eq_some_iff.mp named
  have isName := (isName_classFile named).1
  refine ⟨Path.course (Path.parent path.toList), file, classFile name,
    (Path.parts_of_fileName? found).1, isName, Path.course_of_fileName? found, ?_,
    classFile_eq_fileName_iff found named⟩
  rw [output_eq, beside.outputDirectory_eq, Path.course_child isName]

open CommandLine

/-- Whoever writes beside a source file of another name does not touch it. -/
theorem Beside.run_read_eq (beside : Beside path outDir?) {files : Files} {bytes : ByteArray}
    (readable : files.read path = .ok bytes) (apart : ¬Path.NamedForClass path.toList)
    (check tokens : Bool) :
    (Options.run ⟨path, outDir?, check, tokens⟩ files).2.read path = .ok bytes := by
  rw [Options.run]
  split
  · exact readable
  · rename_i target text decided
    split
    · exact readable
    · rename_i written stored
      have stores := Files.stores_of_write stored
      have placed := (Options.writes_of_processBytes decided).placed
      obtain ⟨course, file, file', isName, isName', path_eq, target_eq, same_iff⟩ :=
        beside.exists_courses placed
      have elsewhere : written.resolve path ≠ written.resolve target := by
        intro same
        obtain ⟨place, resolved⟩ := Files.read_eq_ok_iff.mp stores.read_eq
        have reaches := Files.reach_of_resolve resolved rfl
        have reaches' := Files.reach_of_resolve (same.trans resolved) rfl
        rw [target_eq] at reaches
        rw [path_eq, ← reaches, Files.reach_enter_inj isName isName'] at reaches'
        exact apart (same_iff.mp reaches'.symm)
      have kept := stores.contents_eq path elsewhere
      rw [readable] at kept
      cases found : written.read path with
      | error fault => rw [found] at kept; cases kept
      | ok contents => rw [found] at kept; cases kept; rfl

/-- A generated file beside its source file has another path exactly if the source file does not already
have the name of its class.  Then no run changes what is in the source file. -/
theorem outputPath_spares_source (beside : Beside path outDir?)
    (placed : outputPath? path outDir? = some output) :
    (Path.course output.toList ≠ Path.course path.toList ↔ ¬Path.NamedForClass path.toList) ∧
    ∀ (check tokens : Bool) (files : Files) (bytes : ByteArray),
      ¬Path.NamedForClass path.toList → files.read path = .ok bytes →
      (Options.run ⟨path, outDir?, check, tokens⟩ files).2.read path = .ok bytes := by
  constructor
  · obtain ⟨course, file, file', -, -, path_eq, output_eq, same_iff⟩ := beside.exists_courses placed
    rw [path_eq, output_eq, ne_eq, Course.enter_inj, ← same_iff]
    simp
  · intro check tokens files bytes apart readable
    exact beside.run_read_eq readable apart check tokens

/-- Source files with the extension of generated ones, one of which has the name of its class. -/
def sources : Files :=
  { entries :=
      [ (["d"], .directory), (["d", "main.java"], .file "1".toUTF8),
        (["Main.java"], .file "1".toUTF8) ] }

/-- What both source files are compiled to. -/
def literalClass : String :=
  (Program.toJava [.expression (.integer 1)] "Main").text

/-- The text of both source files is a correct program. -/
theorem checkSource_sources : checkSource "1" = .ok [.expression (.integer 1)] := by
  cbv

/-- The source file with a small letter is kept when the class is written beside it. -/
theorem outputPath_spares_source_smallLetter :
    Beside "d/main.java" none ∧ outputPath? "d/main.java" none = some "d/Main.java" ∧
    ¬Path.NamedForClass "d/main.java".toList ∧
    Path.course "d/Main.java".toList ≠ Path.course "d/main.java".toList ∧
    sources.read "d/main.java" = .ok "1".toUTF8 ∧
    ∃ written, Options.run ⟨"d/main.java", none, false, false⟩ sources = (.success "", written) ∧
      written.read "d/Main.java" = .ok literalClass.toUTF8 ∧
      written.read "d/main.java" = .ok "1".toUTF8 := by
  have beside : Beside "d/main.java" none := .inl rfl
  obtain ⟨named, placed, readable⟩ : className? "d/main.java" = some "Main" ∧
      outputPath? "d/main.java" none = some "d/Main.java" ∧
      sources.read "d/main.java" = .ok "1".toUTF8 := by
    refine ⟨?_, ?_, ?_⟩ <;> cbv
  have apart : ¬Path.NamedForClass "d/main.java".toList := by
    rintro ⟨first, rest, found, own⟩
    have name_eq : Path.fileName? "d/main.java".toList = some "main.java".toList := by cbv
    obtain ⟨rfl, -⟩ := List.cons.inj (Option.some.inj (name_eq.symm.trans found))
    exact absurd own (by decide)
  have decided : Options.processBytes ⟨"d/main.java", none, false, false⟩
      (sources.read "d/main.java") = .write "d/Main.java" literalClass := by
    rw [readable]
    exact Options.processBytes_of_checkSource rfl rfl checkSource_sources named placed
  have stored : sources.write "d/Main.java" literalClass.toUTF8 =
      .ok (sources.put (.inside ["d", "Main.java"]) literalClass.toUTF8) := by
    rfl
  have run_eq := Options.run_of_write decided stored
  obtain ⟨paths, keeps⟩ := outputPath_spares_source beside placed
  have kept := keeps false false sources "1".toUTF8 apart readable
  rw [run_eq] at kept
  exact ⟨beside, placed, apart, paths.mpr apart, readable, _, run_eq,
    (Files.stores_of_write stored).read_eq, kept⟩

/-- A source file with the name of its class is replaced by the class. -/
theorem outputPath_meets_source :
    outputPath? "Main.java" none = some "Main.java" ∧
    outputPath? "Main.java" (some (String.ofList (Path.parent "Main.java".toList))) =
      some "Main.java" ∧
    sources.read "Main.java" = .ok "1".toUTF8 ∧
    (∃ written, Options.run ⟨"Main.java", none, false, false⟩ sources = (.success "", written) ∧
      written.read "Main.java" = .ok literalClass.toUTF8) ∧
    ¬∀ path output : String, outputPath? path none = some output →
      Path.course output.toList ≠ Path.course path.toList := by
  obtain ⟨named, placed, placed', readable⟩ : className? "Main.java" = some "Main" ∧
      outputPath? "Main.java" none = some "Main.java" ∧
      outputPath? "Main.java" (some (String.ofList (Path.parent "Main.java".toList))) =
        some "Main.java" ∧
      sources.read "Main.java" = .ok "1".toUTF8 := by
    refine ⟨?_, ?_, ?_, ?_⟩ <;> cbv
  have decided : Options.processBytes ⟨"Main.java", none, false, false⟩ (sources.read "Main.java") =
      .write "Main.java" literalClass := by
    rw [readable]
    exact Options.processBytes_of_checkSource rfl rfl checkSource_sources named placed
  have stored : sources.write "Main.java" literalClass.toUTF8 =
      .ok (sources.put (.inside ["Main.java"]) literalClass.toUTF8) := by
    rfl
  refine ⟨placed, placed', readable, ⟨_, Options.run_of_write decided stored,
    (Files.stores_of_write stored).read_eq⟩, fun spares => ?_⟩
  exact spares "Main.java" "Main.java" placed rfl

end Beside

end Luso
