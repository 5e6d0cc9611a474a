import Harvester.Json.Writer
import Std.Data.String.ToInt
namespace Harvester.Text

theorem hexValue_hexDigit : ∀ d < 16, hexValue? (hexDigit d) = some d := by decide

theorem hexDigit_injective {m n : Nat} (mDigit : m < 16) (nDigit : n < 16) (same : hexDigit m = hexDigit n) : m = n := by
  have read := hexValue_hexDigit m mDigit
  rw [same, hexValue_hexDigit n nDigit] at read
  exact (Option.some.inj read).symm

theorem isDigit_of_mem {n : Nat} {c : Char} (present : c ∈ Nat.toDigits 10 n) : isDigit c = true := by
  have digit := Nat.isDigit_of_mem_toDigits (by decide) (by decide) present
  simpa [Char.isDigit, isDigit, Char.le_def] using digit

theorem isDigit_range {c : Char} (digit : isDigit c = true) : 48 ≤ c.toNat ∧ c.toNat ≤ 57 := by
  simpa [isDigit, Char.le_def, UInt32.le_iff_toNat_le] using digit

theorem isBlank_digit {c : Char} (digit : isDigit c = true) : isBlank c = false := by
  have range := isDigit_range digit
  simp only [isBlank, Bool.or_eq_false_iff, Bool.and_eq_false_iff, decide_eq_false_iff_not, beq_eq_false_iff_ne]
  omega

-- No leading zero: the first digit stays the same while digits are taken off at the end, down to the last one.
theorem toDigits_first {n : Nat} (positive : 0 < n) :
    ∃ first rest, Nat.toDigits 10 n = first :: rest ∧ first ≠ '0' := by
  induction n using Nat.base_induction 10 (by decide) with
  | single m small =>
    refine ⟨m.digitChar, [], Nat.toDigits_of_lt_base small, ?_⟩
    have range : m = 1 ∨ m = 2 ∨ m = 3 ∨ m = 4 ∨ m = 5 ∨ m = 6 ∨ m = 7 ∨ m = 8 ∨ m = 9 := by omega
    rcases range with rfl | rfl | rfl | rfl | rfl | rfl | rfl | rfl | rfl <;> decide
  | digit m k small shorter ih =>
    obtain ⟨first, rest, shown, other⟩ := ih shorter
    refine ⟨first, rest ++ Nat.toDigits 10 k, ?_, other⟩
    rw [← Nat.toDigits_append_toDigits (by decide) shorter small, shown, List.cons_append]

theorem foldl_toDigits (n : Nat) : (Nat.toDigits 10 n).foldl (fun n c => n * 10 + digitValue c) 0 = n := by
  have value := Nat.ofDigitChars_ten_toDigits (n := n)
  rw [Nat.ofDigitChars_eq_foldl] at value
  simpa only [digitValue, Nat.mul_comm] using value

-- Digits with zeros in front of them.
theorem padded_toList (width n : Nat) : (padded width n).toList =
    List.replicate (width - (Nat.toDigits 10 n).length) '0' ++ Nat.toDigits 10 n := by
  have length : (toString n).length = (Nat.toDigits 10 n).length := by
    rw [← String.length_toList]
    simp
  simp [padded, ← length]

theorem padded_digits {width n : Nat} : ∀ c ∈ (padded width n).toList, isDigit c = true := by
  intro c present
  rw [padded_toList] at present
  rcases List.mem_append.mp present with zero | digit
  · rw [(List.mem_replicate.mp zero).2]
    rfl
  · exact isDigit_of_mem digit

theorem padded_value (width n : Nat) : (padded width n).toList.foldl (fun n c => n * 10 + digitValue c) 0 = n := by
  have zeros (k : Nat) : (List.replicate k '0').foldl (fun n c => n * 10 + digitValue c) 0 = 0 := by
    induction k with
    | zero => rfl
    | succ k ih => exact ih
  rw [padded_toList, List.foldl_append, zeros, foldl_toDigits]

theorem padded_length {width n : Nat} (wide : 0 < width) (fits : n < Nat.pow 10 width) :
    (padded width n).toList.length = width := by
  have short := (Nat.length_toDigits_le_iff (by decide) wide).mpr fits
  rw [padded_toList, List.length_append, List.length_replicate]
  omega

theorem padded_positive {width n : Nat} : 0 < (padded width n).toList.length := by
  have some : 0 < (Nat.toDigits 10 n).length := Nat.length_toDigits_pos
  rw [padded_toList, List.length_append]
  omega

end Harvester.Text

namespace Harvester.Json

open Text

theorem intText_natural (n : Nat) : intText n = Nat.toDigits 10 n := by
  simp [intText, Int.repr_eq_if]

theorem intText_negative {n : Nat} (positive : 0 < n) : intText (-(n : Int)) = '-' :: Nat.toDigits 10 n := by
  have nonzero : n ≠ 0 := by omega
  simp [intText, Int.repr_eq_if, nonzero]

-- Digits, or a minus sign before digits.
theorem intText_cases (z : Int) :
    (∃ n : Nat, z = n ∧ intText z = Nat.toDigits 10 n) ∨
      ∃ n : Nat, 0 < n ∧ z = -(n : Int) ∧ intText z = '-' :: Nat.toDigits 10 n := by
  cases z with
  | ofNat n => exact .inl ⟨n, rfl, intText_natural n⟩
  | negSucc n => exact .inr ⟨n + 1, Nat.succ_pos n, rfl, intText_negative (Nat.succ_pos n)⟩

theorem intText_injective {a b : Int} (same : intText a = intText b) : a = b :=
  Int.repr_injective (String.toList_injective same)

end Harvester.Json
