import Harvester.Proofs.Json.Grammar
import Harvester.Proofs.Json.Reading
import Harvester.Proofs.Text.ByteOrder
namespace Harvester.Json

open Text

variable {us : List Nat} {cs ds : List Char}

-- Code units. They are read back without looking ahead, so no text is the beginning of another in a second way.

abbrev IsLead (n : Nat) : Prop := 0xD800 ≤ n ∧ n ≤ 0xDBFF

abbrev IsTrail (n : Nat) : Prop := 0xDC00 ≤ n ∧ n ≤ 0xDFFF

def pair (lead trail : Nat) : Char := Char.ofNat ((lead - 0xD800) * 1024 + (trail - 0xDC00) + 0x10000)

theorem ofNat_toNat {n : Nat} (scalar : n < 0xD800 ∨ 0xDFFF < n ∧ n < 0x110000) : (Char.ofNat n).toNat = n := by
  rw [Char.ofNat, dif_pos scalar]
  rfl

theorem codeUnits_small {c : Char} (small : c.toNat < 0x10000) : codeUnits c = [c.toNat] := if_pos small

theorem codeUnits_large {c : Char} (large : 0x10000 ≤ c.toNat) :
    ∃ lead trail, codeUnits c = [lead, trail] ∧ IsLead lead ∧ IsTrail trail ∧ pair lead trail = c := by
  have scalar := toNat_scalar c
  refine ⟨_, _, if_neg (by omega), ?_, ?_, ?_⟩
  · omega
  · omega
  · symm
    apply eq_ofNat
    omega

theorem codeUnits_pair {lead trail : Nat} (isLead : IsLead lead) (isTrail : IsTrail trail) :
    codeUnits (pair lead trail) = [lead, trail] := by
  have code : (pair lead trail).toNat = (lead - 0xD800) * 1024 + (trail - 0xDC00) + 0x10000 := ofNat_toNat (by omega)
  rw [codeUnits, if_neg (by omega), code]
  simp only [List.cons.injEq, and_true]
  omega

theorem units_append (cs ds : List Char) : units (cs ++ ds) = units cs ++ units ds := List.flatMap_append

theorem units_cons (c : Char) (cs : List Char) : units (c :: cs) = codeUnits c ++ units cs := List.flatMap_cons

-- What a text begins with: a scalar value, or both halves of a pair.
theorem units_eq_cons {n : Nat} (spelled : units cs = n :: us) :
    (n < 0xD800 ∨ 0xDFFF < n) ∧ n < 0x10000 ∧ (∃ ds, cs = Char.ofNat n :: ds ∧ us = units ds) ∨
      IsLead n ∧ ∃ trail ds, IsTrail trail ∧ cs = pair n trail :: ds ∧ us = trail :: units ds := by
  cases cs with
  | nil => cases spelled
  | cons c ds =>
    rw [units_cons] at spelled
    rcases Nat.lt_or_ge c.toNat 0x10000 with small | large
    · rw [codeUnits_small small] at spelled
      obtain ⟨rfl, rfl⟩ := List.cons.inj spelled
      have scalar := toNat_scalar c
      exact .inl ⟨by omega, small, ds, by rw [Char.ofNat_toNat], rfl⟩
    · obtain ⟨lead, trail, shown, isLead, isTrail, rfl⟩ := codeUnits_large large
      rw [shown] at spelled
      obtain ⟨rfl, rfl⟩ := List.cons.inj spelled
      exact .inr ⟨isLead, trail, ds, isTrail, rfl, rfl⟩

theorem units_eq_append (spelled : units ds = units cs ++ us) : ∃ rest, ds = cs ++ rest ∧ units rest = us := by
  induction cs generalizing ds with
  | nil => exact ⟨ds, rfl, spelled⟩
  | cons c cs ih =>
    rw [units_cons, List.append_assoc] at spelled
    have first : ∃ others, ds = c :: others ∧ units others = units cs ++ us := by
      rcases Nat.lt_or_ge c.toNat 0x10000 with small | large
      · rw [codeUnits_small small] at spelled
        rcases units_eq_cons spelled with ⟨_, _, others, same, rest⟩ | ⟨isLead, _⟩
        · rw [Char.ofNat_toNat] at same
          exact ⟨others, same, rest.symm⟩
        · have scalar := toNat_scalar c
          omega
      · obtain ⟨lead, trail, shown, isLead, isTrail, rfl⟩ := codeUnits_large large
        rw [shown, List.cons_append, List.singleton_append] at spelled
        rcases units_eq_cons spelled with ⟨scalar, _⟩ | ⟨_, other, others, _, same, rest⟩
        · omega
        · obtain ⟨rfl, later⟩ := List.cons.inj rest
          exact ⟨others, same, later.symm⟩
    obtain ⟨others, rfl, later⟩ := first
    obtain ⟨rest, rfl, rest'⟩ := ih later
    exact ⟨rest, rfl, rest'⟩

theorem units_injective (same : units cs = units ds) : cs = ds := by
  rw [← List.append_nil (units ds)] at same
  obtain ⟨rest, rfl, empty⟩ := units_eq_append same
  cases rest with
  | nil => rw [List.append_nil]
  | cons c rest =>
    rw [units_cons] at empty
    have nothing := List.append_eq_nil_iff.mp empty
    unfold codeUnits at nothing
    split at nothing <;> cases nothing.1

-- No text begins like this.
def Stray (us : List Nat) : Prop := ∀ vs cs, units cs ≠ us ++ vs

theorem Stray.append (stray : Stray us) (vs : List Nat) : Stray (us ++ vs) := by
  intro more cs same
  rw [List.append_assoc] at same
  exact stray _ cs same

theorem stray_trail {n : Nat} (isTrail : IsTrail n) (cs : List Char) : Stray (units cs ++ [n]) := by
  intro vs ds same
  rw [List.append_assoc, List.singleton_append] at same
  obtain ⟨rest, _, spelled⟩ := units_eq_append same
  rcases units_eq_cons spelled with ⟨scalar, _⟩ | ⟨isLead, _⟩
  · omega
  · omega

theorem stray_lead {lead n : Nat} (isLead : IsLead lead) (noTrail : ¬ IsTrail n) (cs : List Char) :
    Stray (units cs ++ [lead] ++ [n]) := by
  intro vs ds same
  simp only [List.append_assoc, List.singleton_append] at same
  obtain ⟨rest, _, spelled⟩ := units_eq_append same
  rcases units_eq_cons spelled with ⟨scalar, _⟩ | ⟨_, trail, others, isTrail, _, rest⟩
  · omega
  · cases rest
    exact noTrail isTrail

end Harvester.Json
