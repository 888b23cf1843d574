import Luso.Proofs.CommandLine.Decisions
import Luso.Proofs.Diagnostic.Headline
import Luso.Proofs.Text.Parts
import Luso.Proofs.Token.Canonical
import Luso.Proofs.Token.Lookahead
import Mathlib

/-!
# Lists of tokens

A list of the tokens of a source text is printed while the text is scanned.  It has one line for each
token in front of the first error, and the run ends there, though the stream would tell the same error
whenever it is asked again.  A line shows the canonical spelling of its token, whatever the lexeme is.
-/

namespace Luso

/-! ## Lines -/

/-- The signs around the spelling of a token in a listing. -/
def TokenKind.brackets : TokenKind → String × String
  | .identifier | .integer | .decimal => (" (", ")")
  | .keyword | .operator | .punctuation => (" `", "`")

/-- The line that names a token of this sort by a text. -/
def TokenKind.line (kind : TokenKind) (text : String) : String :=
  kind.name ++ kind.brackets.1 ++ text ++ kind.brackets.2

theorem TokenKind.line_inj {kind : TokenKind} {text text' : String} :
    kind.line text = kind.line text' ↔ text = text' := by
  simp [line, String.ext_iff]

namespace Token

variable {token other : Token}

theorem listing_eq (token : Token) : token.listing = token.kind.line token.text := by
  cases token <;> rfl

/-- The first two letters of a line tell the sort of its token. -/
theorem kind_eq_of_listing_eq (same : token.listing = other.listing) : token.kind = other.kind := by
  have letters (token : Token) : token.listing.toList.take 2 = token.kind.name.toList.take 2 := by
    have long : 2 ≤ token.kind.name.toList.length := by
      cases token.kind <;> decide
    rw [listing_eq, TokenKind.line]
    simp only [String.toList_append, List.append_assoc]
    exact List.take_append_of_le_length long
  have apart : ∀ first second : TokenKind,
      first.name.toList.take 2 = second.name.toList.take 2 → first = second := by
    intro first second
    cases first <;> cases second <;> decide
  apply apart
  rw [← letters, ← letters, same]

/-- A line names the sort of a token and its spelling. -/
theorem listing_inj :
    token.listing = other.listing ↔ token.kind = other.kind ∧ token.text = other.text := by
  constructor
  · intro same
    have kind_eq := kind_eq_of_listing_eq same
    refine ⟨kind_eq, ?_⟩
    rwa [listing_eq, listing_eq, kind_eq, TokenKind.line_inj] at same
  · rintro ⟨kind_eq, text_eq⟩
    rw [listing_eq, listing_eq, kind_eq, text_eq]

end Token

theorem Classifies.oneLine_listing {lexeme : List Char} {token : Token}
    (classified : Classifies lexeme token) : OneLine token.listing := by
  have spelled := classified.oneLine_text
  rw [Token.listing_eq, TokenKind.line]
  simp only [oneLine_append]
  generalize token.kind = kind
  refine ⟨⟨⟨?_, ?_⟩, spelled⟩, ?_⟩
  all_goals cases kind <;> decide

/-! ## Items of a stream -/

/-- What is told at the end of a text. -/
def Ending.answer : Ending → Answer
  | .finished _ => .ended
  | .broken error => .failed error

/-- The error that a text ends with, if there is one. -/
def Ending.error? : Ending → Option LexicalError
  | .finished _ => none
  | .broken error => some error

/-- What a stream tells if so many items are taken, one after the other. -/
def TokenStream.items (stream : TokenStream) (count : Nat) : List Answer :=
  (stream.serve (List.replicate count .pull)).map (·.answer)

/-- What a feed tells if so many items are taken, one after the other. -/
def Feed.items (feed : Feed) (count : Nat) : List Answer :=
  (feed.serve (List.replicate count .pull)).map (·.answer)

/-- The end is told as often as it is asked for. -/
theorem Feed.items_of_placed_nil (ending : Ending) (count : Nat) :
    Feed.items { placed := [], ending } count = List.replicate count ending.answer := by
  induction count with
  | zero => rfl
  | succ count induction =>
      rw [items, List.replicate_succ, serve, behind_of_placed_nil rfl, List.map_cons, ← items,
        induction, List.replicate_succ]
      cases ending <;> rfl

/-- The tokens are told first, and then the end. -/
theorem Feed.items_eq (feed : Feed) (count : Nat) :
    feed.items (feed.tokens.length + count) =
      feed.tokens.map .token ++ List.replicate count feed.ending.answer := by
  obtain ⟨placed, ending⟩ := feed
  induction placed with
  | nil =>
      rw [tokens, List.map_nil, List.length_nil, Nat.zero_add, items_of_placed_nil]
      rfl
  | cons first rest induction =>
      rw [tokens, List.map_cons, List.length_cons, Nat.succ_add, items, List.replicate_succ, serve]
      exact congrArg (Answer.token first.1 :: ·) induction

theorem TokenStream.items_ofSource (source : String) (count : Nat) :
    (TokenStream.ofSource source).items count = (feedOf source).items count := by
  rw [items, serve_eq_feed_serve (settled_of_unread rfl)]
  rfl

/-! ## Runs -/

namespace CommandLine

theorem listTokens_eq_feed (stream : TokenStream) :
    listTokens stream =
      (stream.feed.tokens.map (fun token => token.listing ++ "\n"), stream.feed.ending.error?) := by
  rw [listTokens]
  split
  · rename_i handed
    rw [TokenStream.feed_of_next_error handed]
    rfl
  · rename_i handed
    rw [TokenStream.feed_of_next_end handed]
    rfl
  · rename_i token after handed
    rw [TokenStream.feed_of_next_token handed, listTokens_eq_feed after]
    rfl
termination_by stream.size
decreasing_by exact TokenStream.next_size_lt ‹stream.next = _›

/-- The lines of some tokens. -/
def listingOf (tokens : List Token) : String :=
  String.join (tokens.map fun token => token.listing ++ "\n")

/-- The answer is decided by the feed. -/
theorem tokensResponse_eq (source file : String) :
    tokensResponse source file =
      match (feedOf source).ending with
      | .finished _ => .success (listingOf (feedOf source).tokens)
      | .broken error =>
          .reported (listingOf (feedOf source).tokens)
            (Report.ofError (.lexical error) source file) := by
  rw [tokensResponse, listTokens_eq_feed, ← feedOf]
  cases (feedOf source).ending <;> rfl

/-- A listing has one line for each token. -/
theorem split_listingOf {tokens : List Token} (oneLine : ∀ token ∈ tokens, OneLine token.listing) :
    Text.split '\n' (listingOf tokens).toList =
      tokens.map (fun token => token.listing.toList) ++ [[]] := by
  have toList_eq : (listingOf tokens).toList =
      (tokens.map fun token => token.listing.toList).flatMap (· ++ ['\n']) := by
    simp [listingOf, String.toList_join, List.flatMap_map]
  rw [toList_eq, Text.split_flatMap]
  exact List.forall_mem_map.mpr oneLine

/-- The line of a token stands for a lexeme. -/
structure Lists (lexeme : List Char) (token : Token) : Prop where
  /-- The token is that of the lexeme. -/
  classified : Classifies lexeme token
  /-- The line names the sort of the token and its text. -/
  line_eq : token.listing = token.kind.line token.text
  /-- No token with another sort or text has this line. -/
  names : ∀ other : Token, other.listing = token.listing ↔
    other.kind = token.kind ∧ other.text = token.text
  /-- The line names the lexeme itself exactly if this is canonical. -/
  namesLexeme_iff : token.listing = token.kind.line (String.ofList lexeme) ↔ IsCanonical lexeme token

theorem lists_of_classifies {lexeme : List Char} {token : Token}
    (classified : Classifies lexeme token) : Lists lexeme token :=
  { classified
    line_eq := token.listing_eq
    names := fun _ => Token.listing_inj
    namesLexeme_iff := by
      rw [Token.listing_eq, TokenKind.line_inj, classified.text_eq_iff] }

variable {arguments : List String} {options : Options} {files : Files} {source : String}

/-- A run that is asked for the tokens of a text answers with their list. -/
theorem run_eq_tokensResponse (asked : Request.ofArguments arguments = .run options)
    (tokens : options.tokens = true) (readable : files.read options.input = .ok source.toUTF8) :
    run arguments files = (tokensResponse source options.input, files) := by
  have decided : options.processBytes (files.read options.input) =
      .answer (tokensResponse source options.input) := by
    rw [readable, Options.processBytes_toUTF8, Options.process, if_pos tokens]
  rw [run, asked]
  exact Options.run_of_answer decided

/-- A run that is asked for the tokens of a text prints one line for each token up to the first error,
in the order of the lexemes, and the line names the lexeme exactly if this is canonical.  The run
succeeds if the text can be split, and otherwise reports the error, or panics if the report cannot be
displayed; it ends, though whoever goes on taking items from the stream is told of the end or of the
error for ever. -/
theorem run_lists_tokens (asked : Request.ofArguments arguments = .run options)
    (tokens : options.tokens = true) (readable : files.read options.input = .ok source.toUTF8) :
    (run arguments files).2 = files ∧
    ∃ lexemes stop rest listed,
      Splits .start source.toList lexemes stop rest ∧
      List.Forall₂ (fun lexeme token => Lists lexeme.1 token) lexemes listed ∧
      Text.split '\n' (run arguments files).1.output.toList =
        listed.map (fun token => token.listing.toList) ++ [[]] ∧
      match tokenize source with
      | .ok found =>
          found = listed ∧ rest = [] ∧
          (run arguments files).1.exitCode = 0 ∧ (run arguments files).1.errors = "" ∧
          ∀ count, (TokenStream.ofSource source).items (listed.length + count) =
            listed.map .token ++ List.replicate count .ended
      | .error error =>
          Refused stop rest error ∧
          (run arguments files).1.Reports (.lexical error) source options.input ∧
          ∀ count, (TokenStream.ofSource source).items (listed.length + count) =
            listed.map .token ++ List.replicate count (.failed error) := by
  have items_eq (count : Nat) := (TokenStream.items_ofSource source _).trans
    ((feedOf source).items_eq count)
  obtain ⟨lexemes, stop, rest, splits, classify, stands⟩ := feedOf_reports source
  rw [run_eq_tokensResponse asked tokens readable, tokensResponse_eq, tokenize_eq_result_feedOf,
    Feed.result]
  have lists : List.Forall₂ (fun lexeme token => Lists lexeme.1 token) lexemes
      (feedOf source).tokens := by
    rw [Feed.tokens, List.forall₂_map_right_iff]
    exact classify.imp fun _ _ here => lists_of_classifies here.1
  have lines_eq : Text.split '\n' (listingOf (feedOf source).tokens).toList =
      (feedOf source).tokens.map (fun token => token.listing.toList) ++ [[]] := by
    refine split_listingOf fun token member => ?_
    obtain ⟨lexeme, -, here⟩ := exists_left_of_forall₂ lists member
    exact here.classified.oneLine_listing
  refine ⟨rfl, lexemes, stop, rest, (feedOf source).tokens, splits, lists, ?_⟩
  cases ending_eq : (feedOf source).ending with
  | finished finish =>
      rw [ending_eq] at stands items_eq
      exact ⟨lines_eq, rfl, stands.1, rfl, rfl, items_eq⟩
  | broken error =>
      rw [ending_eq] at stands items_eq
      refine ⟨?_, stands, Response.reports_reported _ _ _ _, items_eq⟩
      dsimp only
      rw [Response.output_reported]
      exact lines_eq

/-- A source file with a sign that no lexeme starts with, in its second line. -/
def strayFiles : Files :=
  { entries := [(["soma.tcc"], .file "a 1\n@ b".toUTF8)] }

/-- The tokens in front of the stray sign are listed, and the sign is reported; what is behind it is never
reached. -/
theorem run_lists_tokens_straySign :
    Request.ofArguments ["--tokens", "-v", "soma.tcc"] = .run ⟨"soma.tcc", none, false, true⟩ ∧
    strayFiles.read "soma.tcc" = .ok "a 1\n@ b".toUTF8 ∧
    ∃ (response : Response) (listed : List Token),
      run ["--tokens", "-v", "soma.tcc"] strayFiles = (response, strayFiles) ∧
      response.output = "identifier (a)\ninteger literal (1)\n" ∧
      response.exitCode = 1 ∧
      (Report.ofError (.lexical (.unrecognisedCharacter '@' { line := 2, column := 0 }))
        "a 1\n@ b" "soma.tcc").display? = some response.errors ∧
      listed.map Token.listing = ["identifier (a)", "integer literal (1)"] ∧
      ∀ count, (TokenStream.ofSource "a 1\n@ b").items (listed.length + count) =
        listed.map .token ++
          List.replicate count (.failed (.unrecognisedCharacter '@' { line := 2, column := 0 })) := by
  have asked : Request.ofArguments ["--tokens", "-v", "soma.tcc"] =
      .run ⟨"soma.tcc", none, false, true⟩ := by
    rfl
  have readable : strayFiles.read "soma.tcc" = .ok "a 1\n@ b".toUTF8 := by cbv
  have handed : feedOf "a 1\n@ b" =
      { placed := [(.identifier "a", .start), (.integer 1, { line := 1, column := 2 })]
        ending := .broken (.unrecognisedCharacter '@' { line := 2, column := 0 }) } := by
    cbv
  have refused : tokenize "a 1\n@ b" =
      .error (.unrecognisedCharacter '@' { line := 2, column := 0 }) := by
    rw [tokenize_eq_result_feedOf, handed]
    rfl
  have output_eq : (run ["--tokens", "-v", "soma.tcc"] strayFiles).1.output =
      "identifier (a)\ninteger literal (1)\n" := by
    rw [run_eq_tokensResponse asked rfl readable, tokensResponse_eq, handed]
    rfl
  have outcome := run_lists_tokens asked rfl readable
  rw [refused, output_eq] at outcome
  obtain ⟨files_eq, -, -, -, listed, -, -, lines_eq, -, reports, items_eq⟩ := outcome
  obtain ⟨exitCode_eq, displayed⟩ :=
    reports.displayed (Error.not_outOfReach_of_lt rfl (by decide))
  have split_eq : Text.split '\n' "identifier (a)\ninteger literal (1)\n".toList =
      ["identifier (a)", "integer literal (1)"].map String.toList ++ [[]] := by
    decide +kernel
  have listing_eq : listed.map Token.listing = ["identifier (a)", "integer literal (1)"] := by
    rw [split_eq] at lines_eq
    have lines := List.append_cancel_right lines_eq
    apply List.map_injective_iff.mpr fun _ _ => String.toList_injective
    rw [List.map_map]
    exact lines.symm
  exact ⟨asked, readable, _, listed, Prod.ext rfl files_eq, output_eq, exitCode_eq, displayed,
    listing_eq, items_eq⟩

/-- A source file with an integer that starts with zeros. -/
def zerosFiles : Files :=
  { entries := [(["sete.tcc"], .file "007".toUTF8)] }

/-- Zeros in front of an integer are lost: the line of its token does not name the lexeme. -/
theorem run_lists_tokens_leadingZeros :
    tokenize "007" = .ok [.integer 7] ∧ Classifies "007".toList (.integer 7) ∧
    ¬ IsCanonical "007".toList (.integer 7) ∧
    (run ["--tokens", "sete.tcc"] zerosFiles).1 = .success "integer literal (7)\n" ∧
    (run ["--tokens", "sete.tcc"] zerosFiles).1.output ≠ TokenKind.integer.line "007" ++ "\n" := by
  have asked : Request.ofArguments ["--tokens", "sete.tcc"] =
      .run ⟨"sete.tcc", none, false, true⟩ := by
    rfl
  have readable : zerosFiles.read "sete.tcc" = .ok "007".toUTF8 := by cbv
  have split : tokenize "007" = .ok [.integer 7] := by cbv
  have handed : feedOf "007" =
      { placed := [(.integer 7, .start)], ending := .finished { line := 1, column := 3 } } := by
    cbv
  have classified : Classifies "007".toList (.integer 7) :=
    .integer ⟨by decide, List.all_eq_true.mp rfl⟩ rfl
  have lost : ¬ IsCanonical "007".toList (.integer 7) := by
    rw [IsCanonical]
    decide
  have answer_eq : (run ["--tokens", "sete.tcc"] zerosFiles).1 = .success "integer literal (7)\n" := by
    rw [run_eq_tokensResponse asked rfl readable, tokensResponse_eq, handed]
    rfl
  refine ⟨split, classified, lost, answer_eq, ?_⟩
  rw [answer_eq]
  decide

end CommandLine
end Luso
