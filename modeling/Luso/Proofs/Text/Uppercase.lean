import Luso.Text.Uppercase
import Mathlib

/-!
# Capitals

Every character has an upper case, which starts with the character itself only if it is nothing else.
No capital comes before the ASCII letters; so other characters, such as a slash, never come about.
-/

namespace Luso
namespace Text

variable {character : Char}

/-! ## The tables -/

theorem capital_of_mem_simpleCapitals : ∀ run ∈ simpleCapitals, 'A'.toNat ≤ run.capital := by
  decide +kernel

theorem capitals_of_mem_expandedCapitals : ∀ entry ∈ expandedCapitals,
    entry.2 ≠ [] ∧ (∀ code ∈ entry.2, 'A'.toNat ≤ code) ∧
      ∀ first ∈ entry.2.head?, (Char.ofNat first).toNat ≠ entry.1 := by
  decide +kernel

/-- The upper case of a character is one of the expansions, a single capital or the character itself. -/
theorem uppercase_cases (character : Char) :
    (∃ capitals, (character.toNat, capitals) ∈ expandedCapitals ∧
      uppercase character = capitals.map Char.ofNat) ∨
    (∃ code, 'A'.toNat ≤ code ∧ uppercase character = [Char.ofNat code]) ∨
    uppercase character = [character] := by
  rw [uppercase]
  split
  · rename_i capitals found
    obtain ⟨front, behind, table_eq, -⟩ := List.lookup_eq_some_iff.mp found
    left
    refine ⟨capitals, ?_, rfl⟩
    rw [table_eq]
    exact List.mem_append_right _ List.mem_cons_self
  · split
    · rename_i run found
      have least := capital_of_mem_simpleCapitals run (List.mem_of_find?_eq_some found)
      exact .inr (.inl ⟨_, Nat.le_add_right_of_le least, rfl⟩)
    · exact .inr (.inr rfl)

/-! ## Upper case -/

theorem uppercase_ne_nil (character : Char) : uppercase character ≠ [] := by
  obtain ⟨capitals, member, upper⟩ | ⟨code, -, upper⟩ | upper := uppercase_cases character
  · rw [upper, ne_eq, List.map_eq_nil_iff]
    exact (capitals_of_mem_expandedCapitals _ member).1
  · rw [upper]
    exact List.cons_ne_nil _ _
  · rw [upper]
    exact List.cons_ne_nil _ _

theorem ofNat_ne_slash {code : Nat} (least : 'A'.toNat ≤ code) : Char.ofNat code ≠ '/' := by
  intro slash
  have toNat_eq : (Char.ofNat code).toNat = 47 := congrArg Char.toNat slash
  rw [Char.toNat_ofNat] at toNat_eq
  have bound : 65 ≤ code := least
  split at toNat_eq
  · omega
  · omega

/-- Only a slash becomes a slash. -/
theorem not_mem_uppercase (other : character ≠ '/') : '/' ∉ uppercase character := by
  obtain ⟨capitals, member, upper⟩ | ⟨code, least, upper⟩ | upper := uppercase_cases character
  · rw [upper, List.mem_map]
    rintro ⟨code, code_mem, slash⟩
    exact ofNat_ne_slash ((capitals_of_mem_expandedCapitals _ member).2.1 code code_mem) slash
  · rw [upper, List.mem_singleton]
    exact (ofNat_ne_slash least).symm
  · rw [upper, List.mem_singleton]
    exact Ne.symm other

/-- Nothing is added to a character that is the first one of its own upper case. -/
theorem uppercase_eq_singleton {rest : List Char} (own : uppercase character = character :: rest) :
    uppercase character = [character] := by
  obtain ⟨capitals, member, upper⟩ | ⟨code, -, upper⟩ | upper := uppercase_cases character
  · obtain ⟨-, -, apart⟩ := capitals_of_mem_expandedCapitals _ member
    rw [own] at upper
    obtain ⟨first, others, rfl, first_eq, -⟩ := List.map_eq_cons_iff.mp upper.symm
    exact absurd (congrArg Char.toNat first_eq) (apart first rfl)
  · rw [own] at upper ⊢
    obtain ⟨-, rfl⟩ := List.cons.inj upper
    rfl
  · exact upper

end Text
end Luso
