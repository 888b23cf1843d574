import Luso.Path
import Luso.Proofs.Text.Parts

/-!
# Courses of paths

Two paths say the same if both start at the root, or neither does, and the same names follow, where the
parts that name no step do not count.  The end of a path is a name in its parent, and a name is the end
of its path in a directory.
-/

namespace Luso
namespace Path

variable {path directory name : List Char}

/-- What a path says. -/
structure Course where
  /-- Whether it starts at the root. -/
  fromRoot : Bool
  /-- The names on the way, the first one also if it is a dot. -/
  names : List (List Char)
deriving DecidableEq

/-- One name further. -/
def Course.enter (course : Course) (name : List Char) : Course :=
  { course with names := course.names ++ [name] }

/-- What a path with these parts says.  Nothing stands in front of the slash of the root. -/
def Course.ofParts : List (List Char) → Course
  | [] => { fromRoot := false, names := [] }
  | first :: rest =>
      { fromRoot := first = [] ∧ rest ≠ []
        names := (if first = [] then [] else [first]) ++ rest.filter (!isIdle ·) }

/-- What a path says. -/
def course (path : List Char) : Course :=
  .ofParts (parts path)

/-- A text that can stand for something in a directory. -/
structure IsName (text : List Char) : Prop where
  /-- It names a step. -/
  not_idle : isIdle text = false
  /-- It does not lead upwards. -/
  not_up : text ≠ ['.', '.']
  /-- It is a single part. -/
  not_slash : '/' ∉ text

theorem IsName.ne_nil (isName : IsName name) : name ≠ [] := by
  rintro rfl
  cases isName.not_idle

theorem Course.enter_inj {first second : Course} {name other : List Char} :
    first.enter name = second.enter other ↔ first = second ∧ name = other := by
  obtain ⟨fromRoot, names⟩ := first
  obtain ⟨fromRoot', names'⟩ := second
  simp only [enter, mk.injEq, List.append_singleton_inj, and_assoc]

/-! ## Parts -/

theorem parts_ne_nil (path : List Char) : parts path ≠ [] :=
  Text.split_ne_nil _ _

theorem not_mem_of_mem_parts {part : List Char} (member : part ∈ parts path) : '/' ∉ part :=
  Text.not_mem_of_mem_split member

theorem parts_of_not_mem (single : '/' ∉ path) : parts path = [path] :=
  Text.split_of_not_mem single

theorem parts_append_slash (front behind : List Char) :
    parts (front ++ '/' :: behind) = parts front ++ parts behind :=
  Text.split_append_cons _ _ _

theorem parts_ne_singleton_nil (nonempty : path ≠ []) : parts path ≠ [[]] := by
  intro parts_eq
  have joined := Text.join_split '/' path
  rw [← parts, parts_eq] at joined
  exact nonempty joined.symm

theorem fromRoot_course (path : List Char) :
    (course path).fromRoot = true ↔ path.head? = some '/' := by
  cases path with
  | nil => simp [course, parts, Text.split, Course.ofParts]
  | cons character rest =>
      rw [course, parts, Text.split]
      split
      · rename_i slash
        simp [Course.ofParts, slash, Text.split_ne_nil]
      · rename_i other
        split <;> simp [Course.ofParts, other]

/-! ## Names in directories -/

namespace Course

variable {front : List (List Char)}

/-- A part behind others is a name further, and idle parts around it do not count.  In front of it, only
the slash of the root can end in nothing. -/
theorem ofParts_append_name (nonempty : front ≠ []) (named : isIdle name = false)
    {between behind : List (List Char)} (idleBetween : ∀ part ∈ between, isIdle part = true)
    (idleBehind : ∀ part ∈ behind, isIdle part = true) :
    ofParts (front ++ (between ++ name :: behind)) = (ofParts (front ++ [[]])).enter name := by
  obtain ⟨first, rest, rfl⟩ := List.exists_cons_of_ne_nil nonempty
  have between_eq : between.filter (!isIdle ·) = [] := by simpa using idleBetween
  have behind_eq : behind.filter (!isIdle ·) = [] := by simpa using idleBehind
  have skipped : isIdle [] = true := rfl
  simp [ofParts, enter, named, skipped, between_eq, behind_eq]

theorem ofParts_append_nil (nonempty : front ≠ []) (notBlank : front ≠ [[]]) :
    ofParts (front ++ [[]]) = ofParts front := by
  obtain ⟨first, rest, rfl⟩ := List.exists_cons_of_ne_nil nonempty
  have skipped : isIdle [] = true := rfl
  have rooted : first = [] → rest ≠ [] := by
    rintro rfl rfl
    exact notBlank rfl
  simp [ofParts, skipped]
  exact rooted

end Course

theorem course_child (isName : IsName name) (directory : List Char) :
    course (child directory name) = (course directory).enter name := by
  have own : parts name = [name] := parts_of_not_mem isName.not_slash
  have further {front : List (List Char)} (nonempty : front ≠ []) :
      Course.ofParts (front ++ [name]) = (Course.ofParts (front ++ [[]])).enter name :=
    @Course.ofParts_append_name _ front nonempty isName.not_idle [] [] (List.forall_mem_nil _)
      (List.forall_mem_nil _)
  rw [child]
  split
  · rename_i here
    rw [here, course, own]
    simp [Course.ofParts, Course.enter, course, parts, Text.split, isName.ne_nil]
  · rename_i nonempty
    split
    · rename_i ended
      obtain ⟨front, rfl⟩ := List.getLast?_eq_some_iff.mp ended
      rw [List.append_assoc, List.singleton_append, course, course, parts_append_slash,
        parts_append_slash, own, parts_of_not_mem List.not_mem_nil]
      exact further (parts_ne_nil front)
    · rw [course, course, parts_append_slash, own, further (parts_ne_nil directory),
        Course.ofParts_append_nil (parts_ne_nil directory) (parts_ne_singleton_nil nonempty)]

/-! ## The end of a path -/

/-- Only parts that name no step are dropped. -/
theorem exists_idle_append_dropIdle (reversed : List (List Char)) :
    ∃ idle, reversed = idle ++ dropIdle reversed ∧ ∀ part ∈ idle, isIdle part = true := by
  induction reversed with
  | nil => exact ⟨[], rfl, List.forall_mem_nil _⟩
  | cons last before induction =>
      cases before with
      | nil => exact ⟨[], rfl, List.forall_mem_nil _⟩
      | cons next others =>
          rw [dropIdle]
          split
          · rename_i idleLast
            obtain ⟨idle, before_eq, all⟩ := induction
            exact ⟨last :: idle, congrArg (last :: ·) before_eq,
              List.forall_mem_cons.mpr ⟨idleLast, all⟩⟩
          · exact ⟨[], rfl, List.forall_mem_nil _⟩

theorem dropIdle_ne_nil {reversed : List (List Char)} (nonempty : reversed ≠ []) :
    dropIdle reversed ≠ [] := by
  fun_induction dropIdle reversed with
  | case1 => exact nonempty
  | case2 => exact nonempty
  | case3 _ _ _ _ induction => exact induction (List.cons_ne_nil _ _)
  | case4 => exact nonempty

theorem dropIdle_of_named (named : isIdle name = false) (before : List (List Char)) :
    dropIdle (name :: before) = name :: before := by
  cases before with
  | nil => rfl
  | cons next others => simp [dropIdle, named]

theorem fileName?_child (isName : IsName name) (directory : List Char) :
    fileName? (child directory name) = some name := by
  have own : parts name = [name] := parts_of_not_mem isName.not_slash
  have ends : ∃ front, parts (child directory name) = front ++ [name] := by
    rw [child]
    split
    · exact ⟨[], own⟩
    · split
      · rename_i ended
        obtain ⟨front, rfl⟩ := List.getLast?_eq_some_iff.mp ended
        rw [List.append_assoc, List.singleton_append, parts_append_slash, own]
        exact ⟨parts front, rfl⟩
      · rw [parts_append_slash, own]
        exact ⟨parts directory, rfl⟩
  obtain ⟨front, parts_eq⟩ := ends
  rw [fileName?, steps, parts_eq, List.reverse_append, List.reverse_singleton, List.singleton_append,
    dropIdle_of_named isName.not_idle]
  simp [isName.not_idle, isName.not_up]

/-- The end of a path is its last part but for idle ones, and it is a name. -/
theorem parts_of_fileName? (found : fileName? path = some name) :
    IsName name ∧ ∃ before idle, steps path = name :: before ∧
      parts path = before.reverse ++ name :: idle ∧ ∀ part ∈ idle, isIdle part = true := by
  rw [fileName?] at found
  split at found
  · cases found
  · rename_i last before steps_eq
    split at found
    · cases found
    · rename_i named
      obtain rfl := Option.some.inj found
      obtain ⟨idle, reversed_eq, all⟩ := exists_idle_append_dropIdle (parts path).reverse
      rw [← steps, steps_eq] at reversed_eq
      have parts_eq : parts path = before.reverse ++ last :: idle.reverse := by
        rw [← List.reverse_reverse (parts path), reversed_eq]
        simp
      have member : last ∈ parts path := by simp [parts_eq]
      simp only [Bool.or_eq_true, beq_iff_eq, not_or, Bool.not_eq_true] at named
      exact ⟨⟨named.1, named.2, not_mem_of_mem_parts member⟩, before, idle.reverse, steps_eq,
        parts_eq, by simpa using all⟩

/-- The end of a path is a name in its parent. -/
theorem course_of_fileName? (found : fileName? path = some name) :
    course path = (course (parent path)).enter name := by
  obtain ⟨isName, before, idle, steps_eq, parts_eq, all⟩ := parts_of_fileName? found
  have skipped : idle.filter (!isIdle ·) = [] := by simpa using all
  rw [parent, steps_eq, course, parts_eq]
  dsimp only
  rcases eq_or_ne before [] with rfl | nonempty
  · simp [dropIdle, Text.join, Course.ofParts, Course.enter, course, parts, Text.split,
      isName.ne_nil, skipped]
  · obtain ⟨dropped, before_eq, idleDropped⟩ := exists_idle_append_dropIdle before
    have kept_ne := dropIdle_ne_nil nonempty
    generalize dropIdle before = kept at before_eq kept_ne ⊢
    have front_ne : kept.reverse ≠ [] := by simpa using kept_ne
    rw [before_eq, List.reverse_append, List.append_assoc,
      Course.ofParts_append_name front_ne isName.not_idle (by simpa using idleDropped) all]
    congr 1
    split
    · rfl
    · rename_i notRoot
      have free : ∀ part ∈ kept.reverse, '/' ∉ part := by
        intro part member
        have inParts : part ∈ parts path := by
          rw [parts_eq, before_eq, List.reverse_append]
          exact List.mem_append_left _ (List.mem_append_left _ member)
        exact not_mem_of_mem_parts inParts
      rw [course, parts, Text.split_join front_ne free]
      apply Course.ofParts_append_nil front_ne
      rwa [ne_eq, List.reverse_eq_iff]

end Path
end Luso
