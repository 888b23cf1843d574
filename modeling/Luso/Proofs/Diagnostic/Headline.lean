import Luso.Diagnostic.Report
import Luso.Proofs.Diagnostic.Places
import Luso.Proofs.Java.Legible

/-!
# Headlines

A report starts with a line that names the error and gives a tip.  The tip quotes a token or what was
expected in its place, and none of these has a line feed in it, so the headline is one line.
-/

namespace Luso

/-- A text without line feeds. -/
def OneLine (text : String) : Prop :=
  '\n' ∉ text.toList

instance (text : String) : Decidable (OneLine text) :=
  inferInstanceAs (Decidable (_ ∉ _))

@[simp]
theorem oneLine_append {front behind : String} :
    OneLine (front ++ behind) ↔ OneLine front ∧ OneLine behind := by
  rw [OneLine, String.toList_append, List.mem_append, not_or]
  rfl

theorem oneLine_ofList {text : List Char} (visible : ∀ character ∈ text, Visible character) :
    OneLine (String.ofList text) := by
  intro feed
  rw [String.toList_ofList] at feed
  cases (visible '\n' feed).1

/-! ## Tokens -/

theorem IsWord.visible {text : List Char} (word : IsWord text) :
    ∀ character ∈ text, Visible character := by
  obtain ⟨first, tail, rfl, letter, tailAll⟩ := word
  exact List.forall_mem_cons.mpr
    ⟨visible_of_isLetter letter, fun character member => visible_of_isWordTail (tailAll character member)⟩

theorem Binary64.visible_write (value : Binary64) :
    ∀ character ∈ value.write, Visible character := by
  cases value with
  | finite negative magnitude =>
      have digits := magnitude.shortest.isNumeral_write
      rw [write]
      intro character member
      apply visible_of_isNumeral
      split at member
      · exact List.forall_mem_cons.mpr ⟨isNumeral_minus, digits⟩ character member
      · exact digits character member
  | infinite negative =>
      cases negative <;> simp [write, Visible, Text.isBlank]
  | nan => simp [write, Visible, Text.isBlank]

/-- Every token of a text is written in one line. -/
theorem Classifies.oneLine_text {lexeme : List Char} {token : Token}
    (classified : Classifies lexeme token) : OneLine token.text := by
  cases classified with
  | keyword word =>
      have spelled := oneLine_ofList word.isWord_spelling.visible
      rwa [String.ofList_toList] at spelled
  | identifier word => exact oneLine_ofList word.visible
  | integer =>
      exact oneLine_ofList fun character member =>
        visible_of_isNumeral (isNumeral_writeInt _ character member)
  | decimal => exact oneLine_ofList (Binary64.visible_write _)
  | operator sign => rcases sign with (_ | _ | _ | _) | _ <;> decide
  | punctuation mark => cases mark <;> decide

theorem Stage.oneLine_expected (stage : Stage) : OneLine stage.expected.text := by
  have member := stage.expected_mem
  generalize stage.expected = expected at member
  simp only [List.mem_cons, List.not_mem_nil, or_false] at member
  rcases member with rfl | rfl | rfl | rfl | rfl | rfl <;> decide

/-! ## Errors -/

namespace LexicalError

variable {source : String} {error : LexicalError}

/-- The only tip about a text that cannot be split quotes digits. -/
theorem oneLine_tip (broken : (feedOf source).ending = .broken error) :
    ∀ tip ∈ error.tip?, OneLine tip := by
  obtain ⟨_, place, rest, -, -, refused⟩ := feedOf_reports source
  rw [broken] at refused
  by_cases oversized : ∃ digits, Oversized rest digits
  · obtain ⟨digits, oversized⟩ := oversized
    rw [refused.1 digits oversized]
    rintro tip ⟨⟩
    have quoted : OneLine (String.ofList digits) :=
      oneLine_ofList fun character member => visible_of_isDigit (oversized.1.2 character member)
    simp only [oneLine_append]
    exact ⟨⟨by decide, quoted⟩, by decide⟩
  · obtain ⟨character, behind, -, -, rfl⟩ := refused.2 (not_exists.mp oversized)
    rintro tip ⟨⟩

end LexicalError

namespace SyntaxError

variable {expected : Expectation} {found : Token} {place : Position}

theorem tip_unexpectedToken :
    (unexpectedToken expected found place).tip =
      if expected.isPunctuation && found.startsStatement then
        "Unexpected token: `" ++ found.text ++ "`, did you miss a `!`?"
      else
        "Unexpected token: `" ++ found.text ++ "`, expected " ++ expected.text := rfl

theorem tip_unexpectedEnd :
    (unexpectedEnd expected place).tip = "Input ended early, expected " ++ expected.text := rfl

theorem tip_invalidAssignee :
    (invalidAssignee place).tip = "Only a variable name can appear on the left of `=`" := rfl

/-- A tip about a program quotes a token of the text and what was expected in its place. -/
theorem oneLine_tip {source : String} {error : SyntaxError}
    (failed : parse source = .error (.syntactic error)) : OneLine error.tip := by
  cases ParseError.justified_of_parse failed with
  | @unexpectedToken _ _ found place stage placed_eq _ _ =>
      have member : (found, place) ∈ (feedOf source).placed := by
        rw [placed_eq]
        exact List.mem_append_right _ List.mem_cons_self
      obtain ⟨_, _, _, -, classify, -⟩ := feedOf_reports source
      obtain ⟨_, -, classified, -⟩ := exists_left_of_forall₂ classify member
      have quoted := classified.oneLine_text
      have expected := stage.oneLine_expected
      rw [tip_unexpectedToken]
      split
      · simp only [oneLine_append]
        exact ⟨⟨by decide, quoted⟩, by decide⟩
      · simp only [oneLine_append]
        exact ⟨⟨⟨by decide, quoted⟩, by decide⟩, expected⟩
  | @unexpectedEnd _ stage _ _ _ =>
      have expected := stage.oneLine_expected
      rw [tip_unexpectedEnd, oneLine_append]
      exact ⟨by decide, expected⟩
  | invalidAssignee =>
      rw [tip_invalidAssignee]
      decide

end SyntaxError

/-- An error met while a source text is split into tokens or read. -/
inductive Error.MetIn (source : String) : Error → Prop where
  | splitting {error} : tokenize source = .error error → MetIn source (.lexical error)
  | reading {error : ParseError} : parse source = .error error → MetIn source error.toError

namespace Error.MetIn

variable {source : String} {error : Error}

theorem exists_isPlaceIn (met : error.MetIn source) :
    ∃ place, error.position? = some place ∧ IsPlaceIn .start source.toList place := by
  cases met with
  | splitting failed => exact ⟨_, rfl, LexicalError.isPlaceIn_of_tokenize failed⟩
  | reading failed => exact ParseError.isPlaceIn_of_parse failed

/-- A reading that fails at a character fails where the text cannot be split. -/
theorem cases_on_kind (met : error.MetIn source) :
    (∃ lexical, error = .lexical lexical ∧ (feedOf source).ending = .broken lexical) ∨
      ∃ syntactic, error = .syntactic syntactic ∧
        parse source = .error (.syntactic syntactic) := by
  cases met with
  | splitting failed =>
      rw [tokenize_eq_result_feedOf, Feed.result_eq_error_iff] at failed
      exact .inl ⟨_, rfl, failed⟩
  | @reading error failed =>
      cases error with
      | syntactic => exact .inr ⟨_, rfl, failed⟩
      | lexical =>
          cases ParseError.justified_of_parse failed with
          | lexical broken _ => exact .inl ⟨_, rfl, broken⟩

theorem oneLine_name (error : Error) : OneLine error.name := by
  rcases error with (_ | _) | (_ | _ | _) | (_ | _ | _ | _ | _)
  all_goals simp [OneLine, name, LexicalError.name, SyntaxError.name, SemanticError.name]

/-- The headline of a report is one line. -/
theorem oneLine_headline (met : error.MetIn source) (file : String) :
    OneLine (Report.ofError error source file).headline := by
  have tips : ∀ tip ∈ error.tip?, OneLine tip := by
    rcases met.cases_on_kind with ⟨lexical, rfl, broken⟩ | ⟨syntactic, rfl, failed⟩
    · exact LexicalError.oneLine_tip broken
    · rintro tip ⟨⟩
      exact SyntaxError.oneLine_tip failed
  have name := oneLine_name error
  rw [Report.headline, Report.ofError]
  dsimp only
  split
  · rw [oneLine_append]
    exact ⟨by decide, name⟩
  · rename_i tip tip_eq
    simp only [oneLine_append]
    exact ⟨⟨⟨⟨by decide, name⟩, by decide⟩, tips tip tip_eq⟩, by decide⟩

end Error.MetIn
end Luso
