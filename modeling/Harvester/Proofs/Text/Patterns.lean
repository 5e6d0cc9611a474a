import Harvester.Text.Blank
namespace Harvester.Text

variable {pattern cs rest : List Char}

theorem dropPattern?_eq_some_iff : dropPattern? pattern cs = some rest ↔ cs = pattern ++ rest := by
  induction pattern generalizing cs with
  | nil => simp [dropPattern?]
  | cons p ps ih =>
    cases cs with
    | nil => simp [dropPattern?]
    | cons c cs =>
      by_cases same : p = c
      · simp [dropPattern?, same, ih]
      · simp [dropPattern?, same, Ne.symm same]

theorem dropPattern?_eq_none_iff : dropPattern? pattern cs = none ↔ ¬ pattern <+: cs := by
  constructor
  · rintro missing ⟨rest, rfl⟩
    rw [dropPattern?_eq_some_iff.mpr rfl] at missing
    cases missing
  · intro missing
    cases found : dropPattern? pattern cs with
    | none => rfl
    | some rest => exact absurd ⟨rest, (dropPattern?_eq_some_iff.mp found).symm⟩ missing

end Harvester.Text
