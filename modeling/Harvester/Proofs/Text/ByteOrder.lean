import Harvester.Text.Utf8
namespace Harvester.Text

theorem ofNat_lt {m n : Nat} (mByte : m < 256) (nByte : n < 256) : UInt8.ofNat m < UInt8.ofNat n ↔ m < n := by
  rw [UInt8.lt_iff_toNat_lt, UInt8.toNat_ofNat_of_lt' mByte, UInt8.toNat_ofNat_of_lt' nByte]

theorem ofNat_eq {m n : Nat} (mByte : m < 256) (nByte : n < 256) : UInt8.ofNat m = UInt8.ofNat n ↔ m = n := by
  rw [← UInt8.toNat_inj, UInt8.toNat_ofNat_of_lt' mByte, UInt8.toNat_ofNat_of_lt' nByte]

-- A character is no half of a surrogate pair.
theorem toNat_scalar (c : Char) : c.toNat < 0xD800 ∨ 0xDFFF < c.toNat ∧ c.toNat < 0x110000 := c.valid

-- The four lengths of a code.
theorem charBytes_cases (c : Char) :
    (c.toNat < 0x80 ∧ charBytes c = [UInt8.ofNat c.toNat]) ∨
      (0x80 ≤ c.toNat ∧ c.toNat < 0x800 ∧
        charBytes c = [UInt8.ofNat (0xC0 + c.toNat / 64), UInt8.ofNat (0x80 + c.toNat % 64)]) ∨
      (0x800 ≤ c.toNat ∧ c.toNat < 0x10000 ∧
        charBytes c = [UInt8.ofNat (0xE0 + c.toNat / 4096), UInt8.ofNat (0x80 + c.toNat / 64 % 64),
          UInt8.ofNat (0x80 + c.toNat % 64)]) ∨
      (0x10000 ≤ c.toNat ∧
        charBytes c = [UInt8.ofNat (0xF0 + c.toNat / 262144), UInt8.ofNat (0x80 + c.toNat / 4096 % 64),
          UInt8.ofNat (0x80 + c.toNat / 64 % 64), UInt8.ofNat (0x80 + c.toNat % 64)]) := by
  unfold charBytes
  dsimp only
  split
  · exact .inl ⟨by assumption, rfl⟩
  · split
    · exact .inr (.inl ⟨by omega, by assumption, rfl⟩)
    · split
      · exact .inr (.inr (.inl ⟨by omega, by assumption, rfl⟩))
      · exact .inr (.inr (.inr ⟨by omega, rfl⟩))

theorem charBytes_ne_nil (c : Char) : charBytes c ≠ [] := by
  rcases charBytes_cases c with ⟨_, shown⟩ | ⟨_, _, shown⟩ | ⟨_, _, shown⟩ | ⟨_, shown⟩ <;> rw [shown] <;>
    exact List.cons_ne_nil _ _

-- A longer code begins with a greater byte than every shorter one; codes of one length are digits to the base of 64,
-- highest first. So two codes differ before either ends, and what stands behind them does not matter.
theorem charBytes_lt {c d : Char} (less : c < d) (x y : List UInt8) : charBytes c ++ x < charBytes d ++ y := by
  have before : c.toNat < d.toNat := less
  have last := toNat_scalar d
  rcases charBytes_cases c with ⟨_, shown⟩ | ⟨_, _, shown⟩ | ⟨_, _, shown⟩ | ⟨_, shown⟩ <;>
    rcases charBytes_cases d with ⟨_, shownLater⟩ | ⟨_, _, shownLater⟩ | ⟨_, _, shownLater⟩ | ⟨_, shownLater⟩ <;>
    rw [shown, shownLater] <;>
    simp (disch := omega) only [List.cons_append, List.nil_append, List.cons_lt_cons_iff, ofNat_lt, ofNat_eq] <;>
    omega

theorem flatMap_charBytes_lt {xs ys : List Char} (less : xs < ys) : xs.flatMap charBytes < ys.flatMap charBytes := by
  induction xs generalizing ys with
  | nil =>
    cases ys with
    | nil => exact absurd less (List.lt_irrefl _)
    | cons d ds =>
      rw [List.flatMap_cons, List.flatMap_nil]
      cases bytes : charBytes d with
      | nil => exact absurd bytes (charBytes_ne_nil d)
      | cons b bs => exact List.nil_lt_cons _ _
  | cons c cs ih =>
    cases ys with
    | nil => exact absurd less (List.not_lt_nil _)
    | cons d ds =>
      rw [List.flatMap_cons, List.flatMap_cons]
      rcases List.cons_lt_cons_iff.mp less with first | ⟨rfl, later⟩
      · exact charBytes_lt first _ _
      · exact List.append_left_lt (ih later)

-- The order of texts by their characters is the order by their bytes.
theorem utf8_lt {s t : String} (less : s < t) : utf8 s < utf8 t :=
  flatMap_charBytes_lt (String.lt_iff.mp less)

theorem utf8_injective {s t : String} (same : utf8 s = utf8 t) : s = t := by
  have level {s t : String} (same : utf8 s = utf8 t) : ¬ s < t := by
    intro less
    have bytes := utf8_lt less
    rw [same] at bytes
    exact List.lt_irrefl _ bytes
  exact String.le_antisymm (String.not_lt.mp (level same.symm)) (String.not_lt.mp (level same))

end Harvester.Text
