import Luso.Proofs.Compilation
import Luso.Proofs.Diagnostic.Caret
import Luso.Proofs.Syntax.Earliest
import Luso.Proofs.Text.Parts
import Luso.Proofs.Token.Insertion

/-!
# Lines that are too long

A name may be as long as it likes.  If it is so long that no width reaches the sign behind it, then an
error about this sign cannot be displayed.
-/

namespace Luso

/-- A lexical error is what is wrong with a text if the tokens in front of it can begin a program and
assign nothing. -/
theorem parse_of_broken {source : String} {error : LexicalError} {stage : Stage}
    (broken : (feedOf source).ending = .broken error)
    (reached : Stage.start.run (feedOf source).tokens = some stage)
    (noAssign : .operator .assign ∉ (feedOf source).tokens) :
    parse source = .error (.lexical error) := by
  cases parsed : parse source with
  | ok program =>
      obtain ⟨tokens, split, -⟩ := derives_of_parse parsed
      rw [tokenize_eq_result_feedOf, Feed.result_eq_ok_iff] at split
      obtain ⟨-, _, finished⟩ := split
      cases broken.symm.trans finished
  | error other =>
      cases ParseError.justified_of_parse parsed with
      | @unexpectedToken front behind found _ _ placed_eq before rejects _ =>
          rw [Feed.tokens, placed_eq, List.map_append, Stage.run_append, before] at reached
          simp [rejects] at reached
      | unexpectedEnd finished => cases broken.symm.trans finished
      | invalidAssignee placed_eq => exact absurd (by simp [Feed.tokens, placed_eq]) noAssign
      | lexical broken' =>
          cases broken.symm.trans broken'
          rfl

/-- A name of so many letters, and behind it a sign that means nothing. -/
def overlong (count : Nat) : String :=
  String.ofList (List.replicate count 'a' ++ ['@'])

theorem Feed.ofText_stray (place : Position) :
    Feed.ofText place ['@'] =
      { placed := [], ending := .broken (.unrecognisedCharacter '@' place) } :=
  TokenStream.feed_of_next_error rfl

variable {count : Nat}

theorem isWordTail_letters :
    ∀ character ∈ List.replicate count 'a', Text.isWordTail character = true := by
  intro character member
  rw [List.eq_of_mem_replicate member]
  rfl

/-- No reserved word starts with this letter. -/
theorem ofSpelling?_letters (more : Nat) :
    Keyword.ofSpelling? (String.ofList (List.replicate (more + 1) 'a')) = none := by
  rw [Keyword.ofSpelling?_eq_none]
  intro word same
  have spelled : word.spelling.toList = 'a' :: List.replicate more 'a' := by
    rw [same, String.toList_ofList, List.replicate_succ]
  rcases word with (_ | _) | _
  all_goals cases spelled

theorem feedOf_overlong (positive : 0 < count) :
    feedOf (overlong count) =
      { placed := [(.identifier (String.ofList (List.replicate count 'a')), .start)]
        ending := .broken (.unrecognisedCharacter '@' { line := 1, column := count }) } := by
  obtain ⟨more, rfl⟩ := Nat.exists_eq_add_one_of_ne_zero (Nat.ne_of_gt positive)
  have found : Lexeme.longest? (List.replicate (more + 1) 'a' ++ ['@']) =
      some (.word (List.replicate (more + 1) 'a')) :=
    Lexeme.longest?_word rfl isWordTail_letters (by rintro next ⟨⟩; rfl)
  have stands : (Lexeme.word (List.replicate (more + 1) 'a')).token? =
      some (.identifier (String.ofList (List.replicate (more + 1) 'a'))) := by
    rw [Lexeme.token?, ofSpelling?_letters]
  have stop_eq : Position.start.advanceOver (List.replicate (more + 1) 'a') =
      { line := 1, column := more + 1 } := by
    rw [Position.advanceOver_of_not_mem _ (by simp), List.length_replicate]
    simp [Position.start]
  have feed_eq := (Upfront.ofLexeme found stands).feed_eq .start
  change Feed.ofText .start (List.replicate (more + 1) 'a' ++ ['@']) =
    (Feed.ofText (Position.start.advanceOver (List.replicate (more + 1) 'a')) ['@']).cons _ _ at feed_eq
  rw [stop_eq, Feed.ofText_stray] at feed_eq
  rw [feedOf, TokenStream.ofSource, overlong, String.toList_ofList]
  exact feed_eq

theorem compileSource_overlong (positive : 0 < count) (className : String) :
    compileSource (overlong count) className =
      .error (.lexical (.unrecognisedCharacter '@' { line := 1, column := count })) := by
  have feed_eq := feedOf_overlong positive
  have parsed : parse (overlong count) =
      .error (.lexical (.unrecognisedCharacter '@' { line := 1, column := count })) := by
    apply parse_of_broken
    · rw [feed_eq]
    · rw [feed_eq]
      rfl
    · rw [feed_eq]
      simp [Feed.tokens]
  rw [compileSource, checkSource, parsed]
  rfl

theorem lineAt?_overlong (count : Nat) :
    lineAt? (overlong count).toList 1 = some (List.replicate count 'a' ++ ['@']) := by
  have free : '\n' ∉ List.replicate count 'a' ++ ['@'] := by
    simp
  have noReturn : Text.trimEndWhile (· == '\r') (List.replicate count 'a' ++ ['@']) =
      List.replicate count 'a' ++ ['@'] := by
    simp [Text.trimEndWhile]
  rw [overlong, String.toList_ofList, lineAt?, Text.split_of_not_mem free]
  exact congrArg some noReturn

/-- Nothing is indented, so all that is in front of the sign counts. -/
theorem outOfReach_overlong_iff :
    (Error.lexical (.unrecognisedCharacter '@' { line := 1, column := count })).OutOfReach
      (overlong count) ↔ Excerpt.greatestWidth ≤ count := by
  have noIndent : (List.replicate count 'a' ++ ['@']).takeWhile Text.isIndent = [] := by
    cases count with
    | zero => rfl
    | succ more =>
        rw [List.replicate_succ]
        rfl
  constructor
  · rintro ⟨_, line, ⟨⟩, found, beyond⟩
    obtain rfl := Option.some.inj ((lineAt?_overlong count).symm.trans found)
    rwa [noIndent, List.length_nil, Nat.zero_add] at beyond
  · intro beyond
    refine ⟨_, _, rfl, lineAt?_overlong count, ?_⟩
    rwa [noIndent, List.length_nil, Nat.zero_add]

end Luso
