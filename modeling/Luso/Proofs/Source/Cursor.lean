import Luso.Source.Reader
import Mathlib.Data.List.DropRight

/-!
# Readers as cursors

A reader holds the text ahead of it.  A cursor holds the whole text instead, and how many bytes of it
are behind; it goes one character at a time, and where its offset is inside a character nothing can be
read.  Along every sequence of movements both are at the same place: the offset is the size of the text
passed over, and line and column are counted in this text.
-/

namespace Luso

/-- A place in a text, as an offset in bytes. -/
structure Cursor where
  /-- The whole text. -/
  source : String
  /-- The number of bytes in front of the place. -/
  offset : Nat
  /-- Where the cursor stands. -/
  position : Position

/-- The ways to go forward in a text. -/
inductive Movement where
  /-- Over one character. -/
  | advance
  /-- Over as many characters as a text has. -/
  | consume (text : List Char)
  /-- Over all characters in front of the first one that fails a test. -/
  | readWhile (test : Char → Bool)

/-! ## Sizes in bytes -/

/-- The size of a text in bytes. -/
def byteSize (text : List Char) : Nat :=
  (String.ofList text).utf8ByteSize

/-- What is behind the first bytes of a text; nothing if these end inside a character or if there are
not so many. -/
def behindBytes? (count : Nat) : List Char → Option (List Char)
  | [] => if count = 0 then some [] else none
  | character :: rest =>
      if count = 0 then
        some (character :: rest)
      else if character.utf8Size ≤ count then
        behindBytes? (count - character.utf8Size) rest
      else
        none

theorem byteSize_append (front rest : List Char) :
    byteSize (front ++ rest) = byteSize front + byteSize rest := by
  simp [byteSize, String.ofList_append]

theorem byteSize_cons (character : Char) (rest : List Char) :
    byteSize (character :: rest) = character.utf8Size + byteSize rest := by
  rw [← List.singleton_append, byteSize_append, byteSize, ← String.singleton_eq_ofList,
    String.utf8ByteSize_singleton]

theorem byteSize_eq_zero_iff {text : List Char} : byteSize text = 0 ↔ text = [] := by
  cases text with
  | nil => simp [byteSize]
  | cons character rest =>
      have positive := character.utf8Size_pos
      simp only [byteSize_cons, reduceCtorEq, iff_false]
      omega

/-- A text can be cut exactly where a character ends. -/
theorem behindBytes?_eq_some_iff {count : Nat} {text rest : List Char} :
    behindBytes? count text = some rest ↔ ∃ front, text = front ++ rest ∧ count = byteSize front := by
  have atStart (text : List Char) :
      some text = some rest ↔ ∃ front, text = front ++ rest ∧ 0 = byteSize front := by
    constructor
    · rintro ⟨⟩
      exact ⟨[], rfl, rfl⟩
    · rintro ⟨front, rfl, empty⟩
      rw [byteSize_eq_zero_iff.mp empty.symm, List.nil_append]
  induction text generalizing count with
  | nil =>
      rw [behindBytes?]
      split
      · rename_i zero
        rw [zero, atStart]
      · rename_i positive
        simp only [reduceCtorEq, false_iff]
        rintro ⟨front, text_eq, rfl⟩
        obtain ⟨rfl, -⟩ := List.nil_eq_append_iff.mp text_eq
        exact positive rfl
  | cons character text induction =>
      rw [behindBytes?]
      split
      · rename_i zero
        rw [zero, atStart]
      · rename_i positive
        -- Whatever is in front of the cut starts with the first character.
        have cut : (∃ front, character :: text = front ++ rest ∧ count = byteSize front) ↔
            ∃ front, text = front ++ rest ∧ count = character.utf8Size + byteSize front := by
          constructor
          · rintro ⟨_ | ⟨first, front⟩, text_eq, rfl⟩
            · exact absurd rfl positive
            · obtain ⟨rfl, rfl⟩ := List.cons.inj text_eq
              exact ⟨front, rfl, byteSize_cons _ _⟩
          · rintro ⟨front, rfl, rfl⟩
            exact ⟨character :: front, rfl, (byteSize_cons _ _).symm⟩
        rw [cut]
        split
        · refine induction.trans (exists_congr fun front => and_congr_right fun _ => ?_)
          omega
        · simp only [reduceCtorEq, false_iff]
          rintro ⟨front, -, rfl⟩
          omega

theorem isSome_behindBytes?_iff {count : Nat} {text : List Char} :
    (behindBytes? count text).isSome = true ↔
      String.Pos.Raw.IsValid (String.ofList text) ⟨count⟩ := by
  rw [String.Pos.Raw.isValid_ofList, Option.isSome_iff_exists]
  constructor
  · rintro ⟨rest, found⟩
    obtain ⟨front, rfl, rfl⟩ := behindBytes?_eq_some_iff.mp found
    exact ⟨front.length, by simp [byteSize]⟩
  · rintro ⟨length, count_eq⟩
    exact ⟨text.drop length, behindBytes?_eq_some_iff.mpr
      ⟨text.take length, (List.take_append_drop _ _).symm, count_eq⟩⟩

/-! ## Cursors -/

namespace Cursor

/-- The cursor at the beginning of a text. -/
def ofSource (source : String) : Cursor :=
  { source, offset := 0, position := Position.start }

/-- The text behind the cursor. -/
def remainder? (cursor : Cursor) : Option (List Char) :=
  behindBytes? cursor.offset cursor.source.toList

/-- The next character, if there is one. -/
def peek? (cursor : Cursor) : Option (Option Char) :=
  cursor.remainder?.map List.head?

/-- Whether the whole text is in front of the cursor. -/
def atEnd (cursor : Cursor) : Bool :=
  cursor.source.utf8ByteSize ≤ cursor.offset

/-- Go over a character. -/
def pass (cursor : Cursor) (character : Char) : Cursor :=
  { cursor with
    offset := cursor.offset + character.utf8Size
    position := cursor.position.advance character }

/-- Go over the next character, if there is one, and return it. -/
def advance? (cursor : Cursor) : Option (Option Char × Cursor) :=
  match cursor.peek? with
  | none => none
  | some none => some (none, cursor)
  | some (some character) => some (some character, cursor.pass character)

/-- Advance once for each character of a text. -/
def consume? (cursor : Cursor) : List Char → Option Cursor
  | [] => some cursor
  | _ :: rest =>
      match cursor.advance? with
      | none => none
      | some (_, after) => after.consume? rest

theorem offset_le_of_peek? {cursor : Cursor} {character : Char}
    (ahead : cursor.peek? = some (some character)) :
    (cursor.pass character).offset ≤ cursor.source.utf8ByteSize := by
  obtain ⟨rest, found, first⟩ := Option.map_eq_some_iff.mp ahead
  obtain ⟨front, source_eq, offset_eq⟩ := behindBytes?_eq_some_iff.mp found
  obtain ⟨others, rfl⟩ := List.head?_eq_some_iff.mp first
  have size_eq : cursor.source.utf8ByteSize = byteSize cursor.source.toList := by
    rw [byteSize, String.ofList_toList]
  simp only [size_eq, source_eq, byteSize_append, byteSize_cons, pass, offset_eq]
  omega

/-- Advance as long as the next character passes a test, and return the characters passed over. -/
def readWhile? (cursor : Cursor) (test : Char → Bool) : Option (List Char × Cursor) :=
  match _ahead : cursor.peek? with
  | none => none
  | some none => some ([], cursor)
  | some (some character) =>
      if test character then
        ((cursor.pass character).readWhile? test).map fun (stretch, after) =>
          (character :: stretch, after)
      else
        some ([], cursor)
termination_by cursor.source.utf8ByteSize - cursor.offset
decreasing_by
  have within := offset_le_of_peek? _ahead
  have positive := character.utf8Size_pos
  simp only [pass] at within ⊢
  omega

/-- Go one movement forward; nothing if the text cannot be read there. -/
def move? (cursor : Cursor) : Movement → Option Cursor
  | .advance => cursor.advance?.map Prod.snd
  | .consume text => cursor.consume? text
  | .readWhile test => (cursor.readWhile? test).map Prod.snd

/-- The cursor behind some movements in a row. -/
def follow? (cursor : Cursor) (movements : List Movement) : Option Cursor :=
  movements.foldlM move? cursor

end Cursor

namespace Reader

/-- Go one movement forward. -/
def move (reader : Reader) : Movement → Reader
  | .advance => reader.advance.2
  | .consume text => reader.consume text
  | .readWhile test => (reader.readWhile test).2

/-- The characters that a movement goes over. -/
def stretch (reader : Reader) : Movement → List Char
  | .advance => reader.advance.1.toList
  | .consume text => reader.remaining.take text.length
  | .readWhile test => (reader.readWhile test).1

/-- The characters that some movements in a row go over. -/
def trail (reader : Reader) : List Movement → List Char
  | [] => []
  | movement :: rest => reader.stretch movement ++ (reader.move movement).trail rest

/-- The reader behind some movements in a row. -/
def follow (reader : Reader) (movements : List Movement) : Reader :=
  movements.foldl move reader

/-- A reader that has gone over some text, as a cursor. -/
def cursorBehind (reader : Reader) (passed : List Char) : Cursor :=
  { source := String.ofList (passed ++ reader.remaining)
    offset := byteSize passed
    position := reader.position }

variable {reader : Reader} {passed : List Char}

theorem remainder?_cursorBehind :
    (reader.cursorBehind passed).remainder? = some reader.remaining := by
  rw [Cursor.remainder?, behindBytes?_eq_some_iff]
  exact ⟨passed, String.toList_ofList, rfl⟩

theorem peek?_cursorBehind : (reader.cursorBehind passed).peek? = some reader.peek := by
  rw [Cursor.peek?, remainder?_cursorBehind, Option.map_some, peek]

theorem atEnd_cursorBehind : (reader.cursorBehind passed).atEnd = reader.atEnd := by
  have size_eq : (reader.cursorBehind passed).source.utf8ByteSize =
      byteSize passed + byteSize reader.remaining := byteSize_append _ _
  rw [Bool.eq_iff_iff, Cursor.atEnd, decide_eq_true_eq, size_eq, atEnd, List.isEmpty_iff,
    ← byteSize_eq_zero_iff]
  change byteSize passed + byteSize reader.remaining ≤ byteSize passed ↔ _
  omega

theorem pass_cursorBehind {character : Char} {rest : List Char}
    (remaining_eq : reader.remaining = character :: rest) :
    (reader.cursorBehind passed).pass character =
      (reader.skip 1).cursorBehind (passed ++ [character]) := by
  have size_eq : byteSize [character] = character.utf8Size := by
    rw [byteSize_cons, byteSize_eq_zero_iff.mpr rfl, Nat.add_zero]
  simp [Cursor.pass, cursorBehind, skip, remaining_eq, byteSize_append, size_eq]

theorem advance?_cursorBehind :
    (reader.cursorBehind passed).advance? =
      some (reader.peek, (reader.skip 1).cursorBehind (passed ++ reader.peek.toList)) := by
  rw [Cursor.advance?, peek?_cursorBehind, peek]
  cases remaining_eq : reader.remaining with
  | nil => simp [cursorBehind, skip, remaining_eq]
  | cons character rest => simp [pass_cursorBehind remaining_eq]

theorem toList_peek : reader.peek.toList = reader.remaining.take 1 := by
  rw [peek]
  cases reader.remaining <;> rfl

theorem consume?_cursorBehind (text : List Char) :
    (reader.cursorBehind passed).consume? text =
      some ((reader.consume text).cursorBehind (passed ++ reader.remaining.take text.length)) := by
  induction text generalizing reader passed with
  | nil => simp [Cursor.consume?, consume, skip]
  | cons character rest induction =>
      have length_eq : (character :: rest).length = 1 + rest.length := Nat.add_comm _ _
      rw [Cursor.consume?, advance?_cursorBehind, toList_peek]
      dsimp only
      rw [induction, consume, consume, skip_skip, skip_remaining, List.append_assoc,
        ← List.take_add, length_eq]

theorem readWhile?_cursorBehind (test : Char → Bool) :
    (reader.cursorBehind passed).readWhile? test =
      some ((reader.readWhile test).1,
        (reader.readWhile test).2.cursorBehind (passed ++ (reader.readWhile test).1)) := by
  obtain ⟨remaining, position⟩ := reader
  induction remaining generalizing passed position with
  | nil =>
      rw [Cursor.readWhile?]
      split
      all_goals
        rename_i ahead
        rw [peek?_cursorBehind] at ahead
        cases ahead
      simp [readWhile, consume, skip]
  | cons character rest induction =>
      rw [Cursor.readWhile?]
      split
      all_goals
        rename_i ahead
        rw [peek?_cursorBehind] at ahead
        cases ahead
      rw [pass_cursorBehind rfl]
      split
      · rename_i holds
        rw [skip, List.drop_one, List.tail_cons, induction]
        simp [readWhile, consume, skip, holds]
      · rename_i fails
        simp [readWhile, consume, skip, fails]

theorem stretch_isPrefix (reader : Reader) (movement : Movement) :
    reader.stretch movement <+: reader.remaining := by
  cases movement with
  | advance =>
      rw [stretch, advance, toList_peek]
      exact List.take_prefix _ _
  | consume text => exact List.take_prefix _ _
  | readWhile test => exact List.takeWhile_prefix test

/-- All movements are skips. -/
theorem skip_length_take (count : Nat) :
    reader.skip (reader.remaining.take count).length = reader.skip count := by
  rw [List.length_take, skip, skip, ← List.drop_eq_drop_min, ← List.take_eq_take_min]

theorem move_eq_skip (movement : Movement) :
    reader.move movement = reader.skip (reader.stretch movement).length := by
  cases movement with
  | advance =>
      rw [stretch, advance, toList_peek, skip_length_take]
      rfl
  | consume text =>
      rw [stretch, skip_length_take]
      rfl
  | readWhile test => rfl

/-- What a movement goes over is in front of what it leaves. -/
theorem stretch_append_remaining (reader : Reader) (movement : Movement) :
    reader.stretch movement ++ (reader.move movement).remaining = reader.remaining := by
  obtain ⟨rest, remaining_eq⟩ := reader.stretch_isPrefix movement
  rw [move_eq_skip, skip_remaining, ← remaining_eq, List.drop_left]

theorem position_move (reader : Reader) (movement : Movement) :
    (reader.move movement).position = reader.position.advanceOver (reader.stretch movement) := by
  obtain ⟨rest, remaining_eq⟩ := reader.stretch_isPrefix movement
  rw [move_eq_skip, skip, ← remaining_eq, List.take_left]

/-- A cursor goes over the same characters as the reader. -/
theorem move?_cursorBehind (movement : Movement) :
    (reader.cursorBehind passed).move? movement =
      some ((reader.move movement).cursorBehind (passed ++ reader.stretch movement)) := by
  cases movement with
  | advance => rw [Cursor.move?, advance?_cursorBehind]; rfl
  | consume text => exact consume?_cursorBehind text
  | readWhile test => rw [Cursor.move?, readWhile?_cursorBehind]; rfl

/-! ## Movements in a row -/

theorem trail_append_remaining (reader : Reader) (movements : List Movement) :
    reader.trail movements ++ (reader.follow movements).remaining = reader.remaining := by
  induction movements generalizing reader with
  | nil => rfl
  | cons movement rest induction =>
      rw [trail, List.append_assoc]
      exact (congrArg _ (induction (reader.move movement))).trans
        (reader.stretch_append_remaining movement)

theorem position_follow (reader : Reader) (movements : List Movement) :
    (reader.follow movements).position =
      reader.position.advanceOver (reader.trail movements) := by
  induction movements generalizing reader with
  | nil => rfl
  | cons movement rest induction =>
      rw [trail, Position.advanceOver_append, ← reader.position_move]
      exact induction (reader.move movement)

theorem follow?_cursorBehind (reader : Reader) (passed : List Char) (movements : List Movement) :
    (reader.cursorBehind passed).follow? movements =
      some ((reader.follow movements).cursorBehind (passed ++ reader.trail movements)) := by
  induction movements generalizing reader passed with
  | nil => rw [trail, List.append_nil]; rfl
  | cons movement rest induction =>
      rw [Cursor.follow?, List.foldlM_cons, move?_cursorBehind, trail, ← List.append_assoc]
      exact induction (reader.move movement) (passed ++ reader.stretch movement)

end Reader

/-- From the beginning, lines and columns count the line feeds of a text and what is behind the last
of them. -/
theorem Position.start_advanceOver (text : List Char) :
    start.advanceOver text =
      { line := 1 + text.count '\n', column := (text.rtakeWhile (· != '\n')).length } := by
  induction text using List.reverseRecOn with
  | nil => rfl
  | append_singleton text last induction =>
      rw [advanceOver_append, induction, advanceOver_cons, advanceOver_nil, advance,
        List.rtakeWhile_concat, List.count_append]
      split
      · rename_i lineFeed
        simp [lineFeed, Nat.add_assoc]
      · rename_i noFeed
        simp [noFeed]

/-- The longest beginning of a text whose characters all pass a test. -/
def LongestPassing (test : Char → Bool) (text stretch : List Char) : Prop :=
  stretch <+: text ∧ (∀ character ∈ stretch, test character = true) ∧
    ∀ other, other <+: text → (∀ character ∈ other, test character = true) → other <+: stretch

theorem longestPassing_takeWhile (test : Char → Bool) (text : List Char) :
    LongestPassing test text (text.takeWhile test) := by
  refine ⟨List.takeWhile_prefix test, fun _ member => List.mem_takeWhile_imp member, ?_⟩
  rintro other ⟨rest, rfl⟩ passes
  rw [List.takeWhile_append_of_pos passes]
  exact List.prefix_append other _

/-- A reader and a cursor have gone over the same beginning of a text. -/
structure Tracks (source : String) (passed : List Char) (reader : Reader) (cursor : Cursor) :
    Prop where
  /-- The rest of the text is ahead. -/
  text_eq : passed ++ reader.remaining = source.toList
  /-- The offset is the size of what is behind. -/
  offset_eq : cursor.offset = byteSize passed
  /-- It is on the boundary of a character. -/
  isValid : String.Pos.Raw.IsValid source ⟨cursor.offset⟩
  /-- The text can be read from there. -/
  remainder_eq : cursor.remainder? = some reader.remaining
  /-- Both stand at the same place. -/
  position_eq : cursor.position = reader.position
  /-- Its line and column are counted in what is behind. -/
  counted : reader.position =
    { line := 1 + passed.count '\n', column := (passed.rtakeWhile (· != '\n')).length }
  /-- Both are at the end together. -/
  atEnd_eq : cursor.atEnd = reader.atEnd
  /-- This is where nothing is ahead. -/
  atEnd_iff : reader.atEnd = true ↔ reader.remaining = []
  /-- Both see the same character. -/
  peek_eq : cursor.peek? = some reader.peek
  /-- They see none where nothing is ahead. -/
  peek_iff : reader.peek = none ↔ reader.remaining = []
  /-- Both return the same character when they go over it. -/
  advance_eq : ∃ after, cursor.advance? = some (reader.advance.1, after)
  /-- Both return the same text when they go over all that passes a test. -/
  readWhile_eq : ∀ test, ∃ after, cursor.readWhile? test = some ((reader.readWhile test).1, after)
  /-- No longer one passes the test. -/
  longest : ∀ test, LongestPassing test reader.remaining (reader.readWhile test).1
  /-- As many characters as another text has are gone over, or all if there are fewer. -/
  consumed : ∀ text, ∃ front, front ++ (reader.consume text).remaining = reader.remaining ∧
    front.length = min text.length reader.remaining.length

/-- Whatever the movements are, a cursor never meets an offset where it cannot read, and it stays where
the reader is: behind the text that the movements have gone over. -/
theorem Reader.follow_tracks (source : String) (movements : List Movement) :
    ∃ cursor, (Cursor.ofSource source).follow? movements = some cursor ∧
      Tracks source ((ofText source.toList).trail movements)
        ((ofText source.toList).follow movements) cursor := by
  have start_eq : Cursor.ofSource source = (ofText source.toList).cursorBehind [] := by
    simp [Cursor.ofSource, cursorBehind, ofText, byteSize]
  have text_eq := (ofText source.toList).trail_append_remaining movements
  have place_eq := (ofText source.toList).position_follow movements
  refine ⟨_, start_eq ▸ follow?_cursorBehind _ [] movements, ?_⟩
  rw [List.nil_append]
  generalize (ofText source.toList).trail movements = passed at text_eq place_eq
  generalize (ofText source.toList).follow movements = reader at text_eq place_eq
  refine
    { text_eq
      offset_eq := rfl
      isValid := ?_
      remainder_eq := remainder?_cursorBehind
      position_eq := rfl
      counted := place_eq.trans (Position.start_advanceOver passed)
      atEnd_eq := atEnd_cursorBehind
      atEnd_iff := List.isEmpty_iff
      peek_eq := peek?_cursorBehind
      peek_iff := List.head?_eq_none_iff
      advance_eq := ⟨_, advance?_cursorBehind⟩
      readWhile_eq := fun test => ⟨_, readWhile?_cursorBehind test⟩
      longest := fun test => longestPassing_takeWhile test reader.remaining
      consumed := fun text => ⟨reader.remaining.take text.length, ?_, List.length_take⟩ }
  · have cut := behindBytes?_eq_some_iff.mpr ⟨passed, text_eq.symm, rfl⟩
    have boundary := isSome_behindBytes?_iff.mp (Option.isSome_of_eq_some cut)
    rwa [ofText, String.ofList_toList] at boundary
  · exact reader.stretch_append_remaining (.consume text)

/-- A character of two bytes is one column. -/
example : (Cursor.ofSource "né x").follow? [.consume ['n', 'e']] =
    some { source := "né x", offset := 3, position := { line := 1, column := 2 } } := by
  cbv

end Luso
