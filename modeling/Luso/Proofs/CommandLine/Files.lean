import Luso.CommandLine.Files

/-!
# Writing files

A write replaces what lies at one place and leaves everything else as it was.  The paths that led to
that place lead to the new contents afterwards, all others to what they led to before.  Only the
fault of a path that goes on behind the place may be another one, as what was missing on the way is a
file now.
-/

namespace Luso
namespace CommandLine

/-- The place to which a path leads if a file can be written there. -/
def Target.place? : Target → Option Place
  | .file place _ => some place
  | .directory => none
  | .vacant place => some place

namespace Files

variable {files after : Files} {place other : Place} {bytes : ByteArray} {path : String}
  {target : Target}

/-! ### One place -/

@[simp] theorem parent_put (directory : Place) :
    (files.put place bytes).parent directory = files.parent directory := by
  cases place <;> rfl

@[simp] theorem child_put (directory : Place) (name : String) :
    (files.put place bytes).child directory name = files.child directory name := by
  cases place <;> rfl

@[simp] theorem place_put (location : Location) :
    (files.put place bytes).place location = files.place location := by
  cases place <;> rfl

theorem node?_put_self (free : files.node? place ≠ some .directory) :
    (files.put place bytes).node? place = some (.file bytes) := by
  cases place with
  | inside location =>
      cases location with
      | nil => exact absurd rfl free
      | cons name rest => simp [put, node?]
  | outside location =>
      have beside : ¬ location.isPrefixOf files.home := by
        intro above
        exact free (by simp [node?, above])
      simp [put, node?, beside]

theorem node?_put_of_ne (apart : other ≠ place) :
    (files.put place bytes).node? other = files.node? other := by
  cases place with
  | inside location =>
      cases other with
      | inside names =>
          have names_ne : names ≠ location := fun same => apart (by rw [same])
          cases names with
          | nil => rfl
          | cons name rest => simp [put, node?, List.lookup_cons, beq_false_of_ne names_ne]
      | outside names => rfl
  | outside location =>
      cases other with
      | inside names => cases names <;> rfl
      | outside names =>
          have names_ne : names ≠ location := fun same => apart (by rw [same])
          simp [put, node?, List.lookup_cons, beq_false_of_ne names_ne]

/-! ### Paths -/

/-- What a path leads to is there, or nothing is where it says so. -/
def Has (files : Files) : Target → Prop
  | .file place bytes => files.node? place = some (.file bytes)
  | .directory => True
  | .vacant place => files.node? place = none

theorem Has.not_directory (has : files.Has target) (leads : target.place? = some place) :
    files.node? place ≠ some .directory := by
  cases target with
  | file found contents =>
      obtain rfl : found = place := Option.some.inj leads
      simp [show files.node? found = some (.file contents) from has]
  | directory => cases leads
  | vacant found =>
      obtain rfl : found = place := Option.some.inj leads
      simp [show files.node? found = none from has]

theorem Has.eq_file (has : files.Has target) (leads : target.place? = some place)
    (found : files.node? place = some (.file bytes)) : target = .file place bytes := by
  cases target with
  | file held contents =>
      obtain rfl : held = place := Option.some.inj leads
      have same : some (Node.file contents) = some (.file bytes) := has.symm.trans found
      cases same
      rfl
  | directory => cases leads
  | vacant held =>
      obtain rfl : held = place := Option.some.inj leads
      have same : none = some (Node.file bytes) := has.symm.trans found
      cases same

theorem has_of_walk {directory : Place} {parts : List (List Char)}
    (walked : files.walk directory parts = .ok target) : files.Has target := by
  fun_induction walk files directory parts with
  | case1 => cases walked; trivial
  | case2 _ _ _ _ ih => exact ih walked
  | case3 _ _ _ ih => exact ih walked
  | case4 => cases walked
  | case5 _ _ _ _ _ _ _ _ _ ih => exact ih walked
  | case6 _ _ _ _ _ _ _ _ found => cases walked; exact found
  | case7 => cases walked
  | case8 _ _ _ _ _ _ _ found => cases walked; exact found
  | case9 => cases walked

/-- What a path leads to before and after a file is put at a place. -/
inductive Turn (place : Place) (bytes : ByteArray) :
    Except FileFault Target → Except FileFault Target → Prop
  /-- It leads to the file. -/
  | written {before : Target} (leads : before.place? = some place) :
      Turn place bytes (.ok before) (.ok (.file place bytes))
  /-- It leads to what it led to. -/
  | same (outcome : Except FileFault Target) : Turn place bytes outcome outcome
  /-- It leads nowhere, as it did. -/
  | nowhere (before after : FileFault) : Turn place bytes (.error before) (.error after)

/-- Where the rest of a path leads from what lies at a place. -/
def enter (files : Files) (place : Place) (rest : List (List Char)) : Except FileFault Target :=
  match files.node? place with
  | some .directory => files.walk place rest
  | some (.file bytes) => if rest = [] then .ok (.file place bytes) else .error .notDirectory
  | none => if rest = [] then .ok (.vacant place) else .error .notFound

theorem walk_name {directory : Place} {part : List Char} {rest : List (List Char)}
    (idle : ¬ Path.isIdle part) (up : part ≠ ['.', '.'])
    (short : ¬ nameLimit < (String.ofList part).utf8ByteSize) :
    files.walk directory (part :: rest) =
      files.enter (files.child directory (String.ofList part)) rest := by
  cases found : files.node? (files.child directory (String.ofList part)) with
  | none => simp [walk, enter, idle, up, short, found]
  | some node => cases node <;> simp [walk, enter, idle, up, short, found]

/-- At the place itself a path either ends, or it goes on where there was no directory before. -/
theorem enter_put_self (free : files.node? place ≠ some .directory) (rest : List (List Char)) :
    Turn place bytes (files.enter place rest) ((files.put place bytes).enter place rest) := by
  rw [enter, enter, node?_put_self free]
  cases found : files.node? place with
  | none =>
      by_cases last : rest = []
      · simpa only [last, if_true] using .written rfl
      · simpa only [last, if_false] using .nowhere _ _
  | some node =>
      cases node with
      | file old =>
          by_cases last : rest = []
          · simpa only [last, if_true] using .written rfl
          · simpa only [last, if_false] using .nowhere _ _
      | directory => exact absurd found free

theorem enter_put_of_ne (apart : other ≠ place) {rest : List (List Char)}
    (onward : Turn place bytes (files.walk other rest) ((files.put place bytes).walk other rest)) :
    Turn place bytes (files.enter other rest) ((files.put place bytes).enter other rest) := by
  rw [enter, enter, node?_put_of_ne apart]
  cases files.node? other with
  | none => exact .same _
  | some node =>
      cases node with
      | file old => exact .same _
      | directory => exact onward

theorem walk_put (free : files.node? place ≠ some .directory) (directory : Place)
    (parts : List (List Char)) :
    Turn place bytes (files.walk directory parts)
      ((files.put place bytes).walk directory parts) := by
  induction parts generalizing directory with
  | nil => exact .same _
  | cons part rest ih =>
      by_cases idle : Path.isIdle part
      · simpa [walk, idle] using ih directory
      by_cases up : part = ['.', '.']
      · rw [walk, walk, if_neg idle, if_neg idle, if_pos up, if_pos up, parent_put]
        exact ih (files.parent directory)
      by_cases long : nameLimit < (String.ofList part).utf8ByteSize
      · simpa [walk, idle, up, long] using .same _
      rw [walk_name idle up long, walk_name idle up long, child_put]
      by_cases meets : files.child directory (String.ofList part) = place
      · rw [meets]
        exact enter_put_self free rest
      · exact enter_put_of_ne meets (ih _)

theorem has_of_resolve (resolved : files.resolve path = .ok target) : files.Has target := by
  rw [resolve] at resolved
  split at resolved
  · cases resolved
  · split at resolved
    · cases resolved
    · exact has_of_walk resolved
    · exact has_of_walk resolved

theorem resolve_put (free : files.node? place ≠ some .directory) (path : String) :
    Turn place bytes (files.resolve path) ((files.put place bytes).resolve path) := by
  rw [resolve, resolve]
  split
  · exact .same _
  · rw [place_put]
    split
    · exact .same _
    · exact walk_put free _ _
    · exact walk_put free _ _

/-! ### Writes -/

theorem write_eq_ok_iff :
    files.write path bytes = .ok after ↔
      ∃ target place, files.resolve path = .ok target ∧ target.place? = some place ∧
        after = files.put place bytes := by
  rw [write]
  cases files.resolve path with
  | error fault => simp
  | ok target => cases target <;> simp [Target.place?, eq_comm]

/-- The file to which a path leads holds the given bytes afterwards, and nothing else changed. -/
structure Stores (before : Files) (path : String) (bytes : ByteArray) (after : Files) : Prop where
  /-- The path leads to the bytes. -/
  read_eq : after.read path = .ok bytes
  /-- Everywhere else lies what lay there, or nothing as before. -/
  node?_eq : ∀ place, after.resolve path ≠ .ok (.file place bytes) →
    after.node? place = before.node? place
  /-- A path that leads elsewhere leads to the same contents as before, or to none as before. -/
  contents_eq : ∀ other, after.resolve other ≠ after.resolve path →
    (after.read other).toOption = (before.read other).toOption

theorem resolve_put_self (resolved : files.resolve path = .ok target)
    (leads : target.place? = some place) :
    (files.put place bytes).resolve path = .ok (.file place bytes) := by
  have free := (has_of_resolve resolved).not_directory leads
  have turn := @resolve_put files place bytes free path
  rw [resolved] at turn
  generalize outcome : (files.put place bytes).resolve path = result at turn
  cases turn with
  | written => rfl
  | same =>
      rw [(has_of_resolve outcome).eq_file leads (node?_put_self free)]

theorem stores_of_write (written : files.write path bytes = .ok after) :
    files.Stores path bytes after := by
  obtain ⟨target, place, resolved, leads, rfl⟩ := write_eq_ok_iff.mp written
  have free := (has_of_resolve resolved).not_directory leads
  have arrives := @resolve_put_self files place bytes path target resolved leads
  constructor
  · rw [read, arrives]
  · intro other elsewhere
    apply node?_put_of_ne
    rintro rfl
    exact elsewhere arrives
  · intro other elsewhere
    have turn := @resolve_put files place bytes free other
    rw [read, read]
    generalize (files.put place bytes).resolve other = result at turn elsewhere
    generalize files.resolve other = outcome at turn
    cases turn with
    | written leads => exact absurd arrives.symm elsewhere
    | same => rfl
    | nowhere before after => rfl

end Files
end CommandLine
end Luso
