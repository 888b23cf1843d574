import Luso.Proofs.Diagnostic.Headline
import Luso.Proofs.Text.Lines

/-!
# The caret of a report

A report shows the line of an error without its indentation and without the white space at its end, and
below it a caret.  The indentation never reaches beyond the place of the error, so the caret is below the
character at this place, or below where it would be if the end of the line were shown too.

A report can be displayed unless the place is more than a width behind the indentation.
-/

namespace Luso

/-! ## Cutting a line -/

/-- A line, cut into its indentation, what is shown of it, and the white space at its end. -/
structure Cut (row : List Char) where
  /-- The indentation. -/
  indent : List Char
  /-- What is shown. -/
  shown : List Char
  /-- The white space at the end. -/
  tail : List Char
  /-- The parts make up the line. -/
  line_eq : row = indent ++ (shown ++ tail)
  /-- The indentation consists of spaces and tabs. -/
  isIndent_indent : ∀ character ∈ indent, Text.isIndent character = true
  /-- It is as long as possible. -/
  indent_ends : ∀ next ∈ (shown ++ tail).head?, Text.isIndent next = false
  /-- Nothing but white space is cut off the end. -/
  isWhiteSpace_tail : ∀ character ∈ tail, Text.isWhiteSpace character = true
  /-- It is cut off completely. -/
  shown_ends : ∀ last ∈ shown.getLast?, Text.isWhiteSpace last = false

theorem isBlank_of_isIndent {character : Char} (isIndent : Text.isIndent character = true) :
    Text.isBlank character = true := by
  rw [Text.isIndent, Bool.or_eq_true] at isIndent
  rw [Text.isBlank]
  rcases isIndent with here | here <;> simp [here]

namespace Cut

variable {row : List Char} {column : Nat}

/-- Whatever is visible at a place is behind the indentation. -/
theorem length_indent_le (cut : Cut row)
    (visible : ∀ next ∈ (row.drop column).head?, Visible next) :
    cut.indent.length ≤ column := by
  refine Nat.le_of_not_lt fun within => ?_
  have here : (row.drop column).head? = some cut.indent[column] := by
    rw [List.head?_drop, congrArg (·[column]?) cut.line_eq, List.getElem?_append_left within,
      List.getElem?_eq_getElem within]
  have blank := isBlank_of_isIndent (cut.isIndent_indent _ (List.getElem_mem within))
  rw [(visible _ here).1] at blank
  cases blank

/-- A place is in the part that is shown exactly if something else than white space is behind it. -/
theorem lt_length_shown_iff (cut : Cut row) (behind : cut.indent.length ≤ column) :
    column - cut.indent.length < cut.shown.length ↔
      ∃ other ∈ row.drop column, Text.isWhiteSpace other = false := by
  have drop_eq : row.drop column = (cut.shown ++ cut.tail).drop (column - cut.indent.length) := by
    rw [congrArg (List.drop column) cut.line_eq, List.drop_append, List.drop_eq_nil_of_le behind,
      List.nil_append]
  rw [drop_eq]
  constructor
  · intro within
    have nonempty : cut.shown ≠ [] := by
      rintro nothing
      simp [nothing] at within
    have left : cut.shown.drop (column - cut.indent.length) ≠ [] := by
      rw [ne_eq, List.drop_eq_nil_iff]
      exact Nat.not_le_of_lt within
    refine ⟨cut.shown.getLast nonempty, ?_,
      cut.shown_ends _ (List.getLast?_eq_getLast_of_ne_nil nonempty)⟩
    rw [List.drop_append_of_le_length (Nat.le_of_lt within), ← List.getLast_drop left]
    exact List.mem_append_left _ (List.getLast_mem left)
  · rintro ⟨other, member, dark⟩
    refine Nat.lt_of_not_le fun beyond => ?_
    rw [List.drop_append, List.drop_eq_nil_of_le beyond, List.nil_append] at member
    rw [cut.isWhiteSpace_tail other (List.mem_of_mem_drop member)] at dark
    cases dark

/-! ### Lines of a report -/

/-- The line that shows a cut line behind its number. -/
def excerptLine (cut : Cut row) (number : Nat) : List Char :=
  Nat.toDigits 10 number ++ [' ', '|', ' '] ++ cut.shown

/-- What is in front of the caret that points at a place in a cut line. -/
def rule (cut : Cut row) (place : Position) : List Char :=
  List.replicate ((Nat.toDigits 10 place.line).length + 1) ' ' ++ ['|', ' '] ++
    List.replicate (place.column - cut.indent.length) '-'

theorem length_rule (cut : Cut row) (place : Position) :
    (cut.rule place).length =
      (Nat.toDigits 10 place.line ++ [' ', '|', ' ']).length + (place.column - cut.indent.length) := by
  simp [rule]
  omega

theorem not_mem_rule (cut : Cut row) (place : Position) : '^' ∉ cut.rule place := by
  simp [rule]

/-- Above the caret is the character at the place, if the end of the line is shown too. -/
theorem getElem?_excerptLine_append (cut : Cut row) {place : Position}
    (behind : cut.indent.length ≤ place.column) :
    (cut.excerptLine place.line ++ cut.tail)[(cut.rule place).length]? = row[place.column]? := by
  rw [length_rule, excerptLine, List.append_assoc, List.getElem?_append_right (Nat.le_add_right _ _),
    Nat.add_sub_cancel_left, congrArg (·[place.column]?) cut.line_eq,
    List.getElem?_append_right behind]

/-- So it is above the caret if it is in the part that is shown, and otherwise nothing is. -/
theorem getElem?_excerptLine (cut : Cut row) {place : Position}
    (behind : cut.indent.length ≤ place.column) :
    (cut.excerptLine place.line)[(cut.rule place).length]? =
      if place.column - cut.indent.length < cut.shown.length then row[place.column]? else none := by
  have length_eq : (cut.excerptLine place.line).length =
      (Nat.toDigits 10 place.line ++ [' ', '|', ' ']).length + cut.shown.length := by
    rw [excerptLine, List.length_append]
  have rule_eq := cut.length_rule place
  split
  · rw [← cut.getElem?_excerptLine_append behind, List.getElem?_append_left (by omega)]
  · rw [List.getElem?_eq_none_iff]
    omega

end Cut

/-- What an excerpt shows of a line that is found without the carriage returns at its end. -/
theorem Excerpt.exists_cut (row : List Char) (place : Position) :
    ∃ cut : Cut row,
      Excerpt.ofLine (Text.trimEndWhile (· == '\r') row) place =
        { number := place.line, text := cut.shown, caret := place.column - cut.indent.length } := by
  have line_eq := Text.trimEndWhile_append (· == '\r') row
  generalize Text.trimEndWhile (· == '\r') row = found at line_eq ⊢
  have found_eq := Text.trimEndWhile_append Text.isWhiteSpace (found.dropWhile Text.isIndent)
  have isReturn : ∀ character ∈ (row.reverse.takeWhile (· == '\r')).reverse, character = '\r' := by
    intro character member
    simpa using List.mem_takeWhile_imp (List.mem_reverse.mp member)
  generalize (row.reverse.takeWhile (· == '\r')).reverse = returns at line_eq isReturn
  refine ⟨{
    indent := found.takeWhile Text.isIndent
    shown := Text.trimEndWhile Text.isWhiteSpace (found.dropWhile Text.isIndent)
    tail := ((found.dropWhile Text.isIndent).reverse.takeWhile Text.isWhiteSpace).reverse ++ returns
    line_eq := ?_
    isIndent_indent := fun character member => List.mem_takeWhile_imp member
    indent_ends := ?_
    isWhiteSpace_tail := ?_
    shown_ends := ?_ }, rfl⟩
  · rw [← List.append_assoc _ _ returns, found_eq, ← List.append_assoc,
      List.takeWhile_append_dropWhile, line_eq]
  · rw [← List.append_assoc, found_eq]
    intro next here
    cases rest_eq : found.dropWhile Text.isIndent with
    | nil =>
        rw [rest_eq, List.nil_append] at here
        rw [isReturn next (List.mem_of_mem_head? here)]
        rfl
    | cons first rest =>
        rw [rest_eq] at here
        exact dropWhile_head? Text.isIndent found next (by rw [rest_eq]; exact here)
  · intro character member
    rcases List.mem_append.mp member with inTail | inReturns
    · exact List.mem_takeWhile_imp (List.mem_reverse.mp inTail)
    · rw [isReturn character inReturns]
      decide
  · rw [Text.trimEndWhile, List.getLast?_reverse]
    exact dropWhile_head? _ _

/-! ## The width of a report -/

/-- The place of an error is so far behind the indentation of its line that no caret can be put there. -/
def Error.OutOfReach (error : Error) (source : String) : Prop :=
  ∃ place line, error.position? = some place ∧ lineAt? source.toList place.line = some line ∧
    (line.takeWhile Text.isIndent).length + Excerpt.greatestWidth ≤ place.column

/-- Columns below the greatest width are within reach. -/
theorem Error.not_outOfReach_of_lt {error : Error} {source : String} {place : Position}
    (positioned : error.position? = some place) (within : place.column < Excerpt.greatestWidth) :
    ¬ error.OutOfReach source := by
  rintro ⟨_, line, positioned', -, beyond⟩
  obtain rfl := Option.some.inj (positioned.symm.trans positioned')
  omega

theorem Excerpt.lt_width_ofLine_iff {line : List Char} {place : Position} :
    greatestWidth < (ofLine line place).width ↔
      (line.takeWhile Text.isIndent).length + greatestWidth ≤ place.column := by
  simp only [width, ofLine, greatestWidth]
  omega

namespace Report

variable {source : String} {error : Error} {place : Position}

theorem eq_text_of_display? {report : Report} {shown : String} (shows : report.display? = some shown) :
    shown = report.text := by
  rw [display?] at shows
  split at shows
  · exact (Option.some.inj shows).symm
  · split at shows
    · exact (Option.some.inj shows).symm
    · cases shows

theorem display?_eq_none_iff {file : String} :
    (ofError error source file).display? = none ↔ error.OutOfReach source := by
  rw [display?]
  split
  · rename_i nothing
    simp only [reduceCtorEq, false_iff]
    rintro ⟨place, line, positioned, found, -⟩
    simp [ofError, positioned, found] at nothing
  · rename_i excerpt shown
    obtain ⟨place, positioned, line_eq⟩ := Option.bind_eq_some_iff.mp shown
    obtain ⟨line, found, rfl⟩ := Option.map_eq_some_iff.mp line_eq
    have outOfReach_iff : error.OutOfReach source ↔
        (line.takeWhile Text.isIndent).length + Excerpt.greatestWidth ≤ place.column := by
      simp [Error.OutOfReach, positioned, found]
    rw [outOfReach_iff, ← Excerpt.lt_width_ofLine_iff]
    split
    · rename_i within
      exact iff_of_false (by rintro ⟨⟩) (Nat.not_lt_of_le within)
    · rename_i beyond
      exact iff_of_true rfl (Nat.lt_of_not_le beyond)

theorem display?_eq_some_iff {file shown : String} :
    (ofError error source file).display? = some shown ↔
      ¬ error.OutOfReach source ∧ shown = (ofError error source file).text := by
  rw [← @display?_eq_none_iff source error file]
  constructor
  · intro shows
    exact ⟨by simp [shows], eq_text_of_display? shows⟩
  · rintro ⟨displayed, rfl⟩
    obtain ⟨other, shows⟩ := Option.ne_none_iff_exists'.mp displayed
    rw [shows, eq_text_of_display? shows]

theorem display?_of_lt (positioned : error.position? = some place)
    (within : place.column < Excerpt.greatestWidth) (file : String) :
    (ofError error source file).display? = some (ofError error source file).text :=
  display?_eq_some_iff.mpr ⟨Error.not_outOfReach_of_lt positioned within, rfl⟩

end Report

/-! ## The lines of a report -/

namespace Report

variable {source : String} {error : Error} {place : Position} {row : List Char}

/-- A report about a place has five lines: the headline, the name of the file, an empty line, the line of
the place and the caret. -/
theorem exists_lines_eq (positioned : error.position? = some place)
    (isLine : IsLine source.toList place.line row) (file : String) :
    ∃ cut : Cut row,
      (ofError error source file).lines =
        [(ofError error source file).headline.toList, "-> ".toList ++ file.toList,
          List.replicate ((Nat.toDigits 10 place.line).length + 1) ' ' ++ ['|'],
          cut.excerptLine place.line, cut.rule place ++ ['^']] := by
  obtain ⟨cut, excerpt_eq⟩ := Excerpt.exists_cut row place
  have shown_eq : (ofError error source file).excerpt? =
      some { number := place.line, text := cut.shown, caret := place.column - cut.indent.length } := by
    rw [ofError, positioned, Option.bind_some, isLine.lineAt?_eq, Option.map_some, excerpt_eq]
  refine ⟨cut, ?_⟩
  rw [lines, shown_eq]
  simp [Excerpt.lines, Excerpt.gutter, Excerpt.label, Cut.excerptLine, Cut.rule, ofError]

/-- The line of the place and the caret end the text of a report. -/
theorem exists_text_eq {report : Report} {headline name margin excerptLine rule : List Char}
    (lines_eq : report.lines = [headline, name, margin, excerptLine, rule ++ ['^']]) :
    ∃ front, report.text.toList = front ++ '\n' :: excerptLine ++ '\n' :: rule ++ ['^', '\n'] := by
  refine ⟨headline ++ '\n' :: name ++ '\n' :: margin, ?_⟩
  rw [text, String.toList_ofList, lines_eq]
  simp

end Report

theorem IsPlaceIn.exists_isLine {source : List Char} {place : Position}
    (isPlace : IsPlaceIn .start source place) :
    ∃ row, IsLine source place.line row ∧ place.column ≤ row.length ∧
      ∀ next ∈ (row.drop place.column).head?, Visible next := by
  obtain ⟨front, rest, rfl, rfl, visible⟩ := isPlace
  obtain ⟨row, isLine, inLine, drop_eq⟩ := Luso.exists_isLine front rest
  refine ⟨row, isLine, inLine, fun next here => visible next ?_⟩
  rw [drop_eq] at here
  cases rest with
  | nil => cases here
  | cons first others =>
      rw [List.takeWhile_cons] at here
      split at here
      · exact here
      · cases here

theorem IsLine.not_mem {source row : List Char} {number : Nat} (isLine : IsLine source number row) :
    '\n' ∉ row := by
  obtain ⟨_, _, -, -, -, noFeed, -⟩ := isLine
  exact noFeed

theorem Cut.not_mem_excerptLine {row : List Char} (cut : Cut row) (noFeed : '\n' ∉ row)
    (number : Nat) : '\n' ∉ cut.excerptLine number := by
  rw [cut.line_eq] at noFeed
  simp only [List.mem_append, not_or] at noFeed
  rw [excerptLine, List.mem_append, List.mem_append, not_or, not_or]
  refine ⟨⟨fun inNumber => ?_, by decide⟩, noFeed.2.1⟩
  cases Nat.isDigit_of_mem_toDigits (by decide) (by decide) inNumber

/-- The report of an error that is met while a source text is read consists of five lines.  It shows the
line in which the error is, behind its number and without the blanks around it, and the caret below it is
where the character at the place of the error is shown, or would be if it is at the end.  It can be
displayed if the column is below the greatest width. -/
theorem Report.showsPlace {source file : String} {error : Error} (met : error.MetIn source)
    (oneLine : OneLine file) :
    ∃ place row, ∃ cut : Cut row,
      error.position? = some place ∧ IsLine source.toList place.line row ∧
      place.column ≤ row.length ∧
      lineAt? source.toList place.line = some (Text.trimEndWhile (· == '\r') row) ∧
      Text.split '\n' (ofError error source file).text.toList =
        [(ofError error source file).headline.toList, "-> ".toList ++ file.toList,
          List.replicate ((Nat.toDigits 10 place.line).length + 1) ' ' ++ ['|'],
          cut.excerptLine place.line, cut.rule place ++ ['^'], []] ∧
      cut.indent.length ≤ place.column ∧
      (cut.excerptLine place.line ++ cut.tail)[(cut.rule place).length]? = row[place.column]? ∧
      (place.column < Excerpt.greatestWidth →
        (ofError error source file).display? = some (ofError error source file).text) := by
  obtain ⟨place, positioned, isPlace⟩ := met.exists_isPlaceIn
  obtain ⟨row, isLine, inLine, visible⟩ := isPlace.exists_isLine
  obtain ⟨cut, lines_eq⟩ := exists_lines_eq positioned isLine file
  have behind := cut.length_indent_le visible
  have free : ∀ text ∈ (ofError error source file).lines, '\n' ∉ text := by
    rw [lines_eq]
    simp only [List.forall_mem_cons]
    refine ⟨met.oneLine_headline file, ?_, ?_, cut.not_mem_excerptLine isLine.not_mem _, ?_⟩
    · rw [List.mem_append, not_or]
      exact ⟨by decide, oneLine⟩
    · simp
    · simp [Cut.rule]
  refine ⟨place, row, cut, positioned, isLine, inLine, isLine.lineAt?_eq, ?_, behind,
    cut.getElem?_excerptLine_append behind, fun within => display?_of_lt positioned within file⟩
  rw [text, String.toList_ofList, Text.split_flatMap free, lines_eq]
  rfl

/-- A sign that means nothing, in the second line of a text, is shown without the indentation. -/
theorem Report.showsPlace_straySign :
    ∃ row, ∃ cut : Cut row,
      IsLine "inteiro a = 1!\n\ta = @!".toList 2 row ∧
      ∃ shown, (ofError (.lexical (.unrecognisedCharacter '@' { line := 2, column := 5 }))
          "inteiro a = 1!\n\ta = @!" "main.tcc").display? = some shown ∧
      Text.split '\n' shown.toList =
        ["Error: UnrecognisedCharacter".toList, "-> main.tcc".toList, "  |".toList,
          cut.excerptLine 2, cut.rule { line := 2, column := 5 } ++ ['^'], []] ∧
      (cut.excerptLine 2 ++ cut.tail)[(cut.rule { line := 2, column := 5 }).length]? = row[5]? := by
  have failed : tokenize "inteiro a = 1!\n\ta = @!" =
      .error (.unrecognisedCharacter '@' { line := 2, column := 5 }) := by
    cbv
  obtain ⟨place, row, cut, positioned, isLine, -, -, split_eq, -, aligned, displayed⟩ :=
    Report.showsPlace (.splitting failed) (show OneLine "main.tcc" by decide)
  cases positioned
  exact ⟨row, cut, isLine, _, displayed (by decide), split_eq, aligned⟩

/-! ## Characters that mean nothing -/

section Offender

variable {source : String} {character : Char} {place : Position}

/-- Where a character is refused, the text goes on with this character. -/
theorem exists_front_of_unrecognised
    (failed : tokenize source = .error (.unrecognisedCharacter character place)) :
    ∃ front behind, source.toList = front ++ character :: behind ∧
      place = Position.start.advanceOver front ∧ Visible character := by
  rw [tokenize_eq_result_feedOf, Feed.result_eq_error_iff] at failed
  obtain ⟨lexemes, stop, rest, splits, -, refused⟩ := feedOf_reports source
  rw [failed] at refused
  obtain ⟨front, text_eq, stop_eq⟩ := splits.exists_front
  have notOversized : ∀ digits, ¬ Oversized rest digits := fun digits oversized => by
    cases refused.1 digits oversized
  have visible := refused.visible
  obtain ⟨other, behind, rfl, -, error_eq⟩ := refused.2 notOversized
  cases error_eq
  exact ⟨front, behind, text_eq, stop_eq, visible _ rfl⟩

/-- The report of a character that means nothing shows this character above the caret exactly if
something else than white space stands at its place or behind it in the line.  Otherwise the character is
itself white space of some script, at the end of the line, and nothing is above the caret.  The report can
be displayed if the column is below the greatest width. -/
theorem Report.showsOffender_iff
    (failed : tokenize source = .error (.unrecognisedCharacter character place)) (file : String) :
    ∃ row front excerptLine rule,
      IsLine source.toList place.line row ∧ row[place.column]? = some character ∧
      (ofError (.lexical (.unrecognisedCharacter character place)) source file).text.toList =
        front ++ '\n' :: excerptLine ++ '\n' :: rule ++ ['^', '\n'] ∧
      '\n' ∉ excerptLine ∧ '^' ∉ rule ∧
      (excerptLine[rule.length]? = some character ↔
        ∃ other ∈ row.drop place.column, Text.isWhiteSpace other = false) ∧
      (excerptLine[rule.length]? ≠ some character → excerptLine[rule.length]? = none) ∧
      (place.column < Excerpt.greatestWidth →
        (ofError (.lexical (.unrecognisedCharacter character place)) source file).display? =
          some (ofError (.lexical (.unrecognisedCharacter character place)) source file).text) := by
  obtain ⟨before, rest, source_eq, rfl, visible⟩ := exists_front_of_unrecognised failed
  obtain ⟨row, isLine, inLine, drop_eq⟩ := exists_isLine before (character :: rest)
  rw [← source_eq] at isLine
  generalize Position.start.advanceOver before = place at *
  have inner : character ≠ '\n' := by
    rintro rfl
    cases visible.1
  rw [List.takeWhile_cons_of_pos (by simpa using inner)] at drop_eq
  have here : row[place.column]? = some character := by
    rw [← List.head?_drop, drop_eq]
    rfl
  have positioned : (Error.lexical (.unrecognisedCharacter character place)).position? = some place :=
    rfl
  obtain ⟨cut, lines_eq⟩ := exists_lines_eq positioned isLine file
  have behind : cut.indent.length ≤ place.column := by
    refine cut.length_indent_le ?_
    rw [drop_eq]
    rintro next ⟨⟩
    exact visible
  have above := cut.getElem?_excerptLine behind
  rw [here] at above
  obtain ⟨front, text_eq⟩ := exists_text_eq lines_eq
  refine ⟨row, front, cut.excerptLine place.line, cut.rule place, isLine, here, text_eq,
    cut.not_mem_excerptLine isLine.not_mem _, cut.not_mem_rule place, ?_, ?_,
    fun within => display?_of_lt positioned within file⟩
  · rw [above, ← cut.lt_length_shown_iff behind]
    split <;> simp [*]
  · rw [above]
    split
    · exact fun other => absurd rfl other
    · exact fun _ => rfl

/-- An ordinary sign that means nothing is shown above the caret. -/
theorem Report.showsOffender_straySign :
    ∃ shown front excerptLine rule,
      (ofError (.lexical (.unrecognisedCharacter '@' { line := 1, column := 4 })) "b = @ !"
          "main.tcc").display? = some shown ∧
      shown.toList = front ++ '\n' :: excerptLine ++ '\n' :: rule ++ ['^', '\n'] ∧
      '\n' ∉ excerptLine ∧ '^' ∉ rule ∧ excerptLine[rule.length]? = some '@' := by
  have failed : tokenize "b = @ !" =
      .error (.unrecognisedCharacter '@' { line := 1, column := 4 }) := by
    cbv
  obtain ⟨row, front, excerptLine, rule, -, here, text_eq, noFeed, noCaret, shown_iff, -, displayed⟩ :=
    Report.showsOffender_iff failed "main.tcc"
  refine ⟨_, front, excerptLine, rule, displayed (by decide), text_eq, noFeed, noCaret,
    shown_iff.mpr ⟨'@', ?_, by decide⟩⟩
  rw [← List.head?_drop] at here
  exact List.mem_of_mem_head? here

/-- A space that must not be broken means nothing to the scan, but as white space it is cut off at the end
of the line, and the caret points at nothing. -/
theorem Report.showsOffender_noBreakSpace :
    tokenize "inteiro a = 1!\u00a0" =
        .error (.unrecognisedCharacter '\u00a0' { line := 1, column := 14 }) ∧
      (ofError (.lexical (.unrecognisedCharacter '\u00a0' { line := 1, column := 14 }))
          "inteiro a = 1!\u00a0" "main.tcc").display? = some
        "Error: UnrecognisedCharacter\n-> main.tcc\n  |\n1 | inteiro a = 1!\n  | --------------^\n" ∧
      ∀ front excerptLine rule,
        (ofError (.lexical (.unrecognisedCharacter '\u00a0' { line := 1, column := 14 }))
            "inteiro a = 1!\u00a0" "main.tcc").text.toList =
          front ++ '\n' :: excerptLine ++ '\n' :: rule ++ ['^', '\n'] →
        excerptLine[rule.length]? ≠ some '\u00a0' := by
  have displayed : (ofError (.lexical (.unrecognisedCharacter '\u00a0' { line := 1, column := 14 }))
      "inteiro a = 1!\u00a0" "main.tcc").display? = some
        "Error: UnrecognisedCharacter\n-> main.tcc\n  |\n1 | inteiro a = 1!\n  | --------------^\n" := by
    cbv
  refine ⟨by cbv, displayed, fun front excerptLine rule split_eq above => ?_⟩
  have shown : '\u00a0' ∈ front ++ '\n' :: excerptLine ++ '\n' :: rule ++ ['^', '\n'] := by
    simp [List.mem_of_getElem? above]
  rw [← split_eq, ← eq_text_of_display? displayed] at shown
  revert shown
  decide

end Offender

end Luso
