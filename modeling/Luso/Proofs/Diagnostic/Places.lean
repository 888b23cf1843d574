import Luso.Proofs.Syntax.Earliest
import Luso.Proofs.Token.Spelling

/-!
# The places of errors

Whatever error is met while a source text is read, its place is in the text: a lexeme starts there, or
something that is refused, or the text is at its end.  In no case is a blank or a comment there.
-/

namespace Luso

/-- A place in a text, which starts at some other place, where nothing is left or no blank and no
comment starts. -/
def IsPlaceIn (start : Position) (text : List Char) (place : Position) : Prop :=
  ∃ front rest, text = front ++ rest ∧ place = start.advanceOver front ∧
    ∀ next ∈ rest.head?, Visible next

theorem Splits.isPlaceIn_of_mem {place stop : Position} {text rest : List Char}
    {lexemes : List (List Char × Position)} {lexeme : List Char × Position}
    (splits : Splits place text lexemes stop rest) (member : lexeme ∈ lexemes) :
    IsPlaceIn place text lexeme.2 := by
  induction splits with
  | stop => cases member
  | @lexeme place trivia first behind _ _ _ _ here _ induction =>
      cases member with
      | head => exact ⟨trivia, first ++ behind, rfl, rfl, here.visible⟩
      | tail _ member =>
          obtain ⟨front, others, rfl, place_eq, visible⟩ := induction member
          refine ⟨trivia ++ first ++ front, others, by simp, ?_, visible⟩
          rw [place_eq, ← Position.advanceOver_append]

namespace Feed.Reports

variable {start place : Position} {text : List Char} {feed : Feed}

theorem isPlaceIn_of_token {front behind : List (Token × Position)} {token : Token}
    (reports : feed.Reports start text) (placed_eq : feed.placed = front ++ (token, place) :: behind) :
    IsPlaceIn start text place := by
  have member : (token, place) ∈ feed.placed := by
    rw [placed_eq]
    exact List.mem_append_right _ List.mem_cons_self
  obtain ⟨lexemes, stop, rest, splits, classify, -⟩ := reports
  obtain ⟨lexeme, lexeme_mem, -, rfl⟩ := exists_left_of_forall₂ classify member
  exact splits.isPlaceIn_of_mem lexeme_mem

theorem isPlaceIn_of_finished (reports : feed.Reports start text)
    (finished : feed.ending = .finished place) : IsPlaceIn start text place :=
  ⟨text, [], (List.append_nil text).symm, reports.finish_eq finished, by rintro next ⟨⟩⟩

theorem isPlaceIn_of_broken {error : LexicalError} (reports : feed.Reports start text)
    (broken : feed.ending = .broken error) : IsPlaceIn start text error.position := by
  obtain ⟨lexemes, stop, rest, splits, -, stands⟩ := reports
  rw [broken] at stands
  obtain ⟨front, rfl, rfl⟩ := splits.exists_front
  exact ⟨front, rest, rfl, stands.position_eq, stands.visible⟩

end Feed.Reports

/-! ## Source texts -/

variable {source : String}

theorem LexicalError.isPlaceIn_of_tokenize {error : LexicalError}
    (failed : tokenize source = .error error) : IsPlaceIn .start source.toList error.position := by
  rw [tokenize_eq_result_feedOf, Feed.result_eq_error_iff] at failed
  exact (feedOf_reports source).isPlaceIn_of_broken failed

theorem ParseError.isPlaceIn_of_parse {error : ParseError} (failed : parse source = .error error) :
    ∃ place, error.toError.position? = some place ∧ IsPlaceIn .start source.toList place := by
  have reports := feedOf_reports source
  cases ParseError.justified_of_parse failed with
  | unexpectedToken placed_eq _ _ _ => exact ⟨_, rfl, reports.isPlaceIn_of_token placed_eq⟩
  | unexpectedEnd finished _ _ => exact ⟨_, rfl, reports.isPlaceIn_of_finished finished⟩
  | invalidAssignee placed_eq _ => exact ⟨_, rfl, reports.isPlaceIn_of_token placed_eq⟩
  | lexical broken _ => exact ⟨_, rfl, reports.isPlaceIn_of_broken broken⟩

end Luso
