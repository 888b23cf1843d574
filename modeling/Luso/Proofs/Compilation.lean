import Luso.Compilation
import Luso.Proofs.Syntax.Flattening

/-!
# Accepted source texts

A source text is accepted if it can be read and the analysis of the program finds no error.  Then it is
compiled, whatever the program is.
-/

namespace Luso

variable {source className text : String} {tokens : List Token} {program : Program}

theorem checkSource_eq_ok_iff :
    checkSource source = .ok program ↔
      parse source = .ok program ∧ Program.analyze program = .ok () := by
  rw [checkSource]
  cases parse source with
  | error error => simp
  | ok found =>
      rw [Except.ok.injEq]
      constructor
      · intro checked
        dsimp only at checked
        split at checked
        · cases checked
        · rename_i analyzed
          cases checked
          exact ⟨rfl, analyzed⟩
      · rintro ⟨rfl, analyzed⟩
        simp only [analyzed]

theorem compileSource_eq_ok_iff :
    compileSource source className = .ok text ↔
      ∃ program, checkSource source = .ok program ∧ text = (program.toJava className).text := by
  rw [compileSource]
  cases checkSource source with
  | error error => simp
  | ok program => simp [eq_comm]

/-- The tokens of a source text say whether it is accepted. -/
theorem checkSource_of_derives (split : tokenize source = .ok tokens)
    (derivation : DerivesProgram tokens program) (accepted : Program.analyze program = .ok ()) :
    checkSource source = .ok program :=
  checkSource_eq_ok_iff.mpr ⟨parse_of_derives split derivation, accepted⟩

theorem analyzeFrom_of_checkSource (checked : checkSource source = .ok program) :
    ∃ after, Program.analyzeFrom program .empty = (.ok (), after) := by
  have accepted := (checkSource_eq_ok_iff.mp checked).2
  rw [Program.analyze] at accepted
  exact ⟨_, Prod.ext accepted rfl⟩

end Luso
