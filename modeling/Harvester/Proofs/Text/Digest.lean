import Harvester.Digest
import Harvester.Proofs.Text.ByteOrder
import Harvester.Proofs.Text.Digits
namespace Harvester

open Text

namespace Digest

theorem absorb_length (state : List UInt32) (block : List UInt8) (whole : state.length = 8) :
    (absorb state block).length = 8 := by
  simp [absorb, Mix.words, whole]

theorem foldl_absorb_length (blocks : List (List UInt8)) (state : List UInt32) (whole : state.length = 8) :
    (blocks.foldl absorb state).length = 8 := by
  induction blocks generalizing state with
  | nil => exact whole
  | cons block rest ih => exact ih (absorb state block) (absorb_length state block whole)

theorem pieces_append {front : List α} {size : Nat} (whole : front.length = size) (some : 0 < size) (fuel : Nat)
    (rest : List α) : pieces size (fuel + 1) (front ++ rest) = front :: pieces size fuel rest := by
  have filled : front ≠ [] := List.ne_nil_of_length_pos (whole ▸ some)
  rw [pieces, if_neg (by simp [filled]), List.take_left' whole, List.drop_left' whole]

-- Whole pieces of one byte, and one more behind them.
theorem pieces_replicate {size k fuel : Nat} (b : UInt8) {last : List UInt8} (whole : last.length = size)
    (some : 0 < size) (enough : k < fuel) :
    pieces size fuel (List.replicate (size * k) b ++ last) = List.replicate k (List.replicate size b) ++ [last] := by
  induction k generalizing fuel with
  | zero =>
    cases fuel with
    | zero => cases enough
    | succ fuel =>
      have nothing : pieces size fuel ([] : List UInt8) = [] := by cases fuel <;> rfl
      have only := pieces_append whole some fuel []
      rw [nothing, List.append_nil] at only
      exact only
  | succ k ih =>
    cases fuel with
    | zero => cases enough
    | succ fuel =>
      rw [Nat.mul_succ, Nat.add_comm (size * k) size, ← List.replicate_append_replicate, List.append_assoc,
        pieces_append List.length_replicate some, ih (Nat.lt_of_succ_lt_succ enough)]
      rfl

theorem hexWord_length (w : UInt32) : (hexWord w).length = 8 := by simp [hexWord]

theorem mod_pow_eq {m n k : Nat} (digits : ∀ i < k, m / Nat.pow 16 i % 16 = n / Nat.pow 16 i % 16) :
    m % Nat.pow 16 k = n % Nat.pow 16 k := by
  induction k with
  | zero =>
    change m % 1 = n % 1
    rw [Nat.mod_one, Nat.mod_one]
  | succ k ih =>
    have lower := ih fun i inside => digits i (Nat.lt_succ_of_lt inside)
    change m % (Nat.pow 16 k * 16) = n % (Nat.pow 16 k * 16)
    rw [Nat.mod_mul, Nat.mod_mul, digits k (Nat.lt_succ_self k), lower]

-- Eight digits to the base of 16 hold a whole word, highest first.
theorem hexWord_injective {v w : UInt32} (same : hexWord v = hexWord w) : v = w := by
  have digit (i : Nat) (inside : i < 8) : v.toNat / Nat.pow 16 i % 16 = w.toNat / Nat.pow 16 i % 16 := by
    have place : 7 - i < 8 := by omega
    have nth := congrArg (·[7 - i]?) same
    simp only [hexWord, List.getElem?_map, List.getElem?_range place, Option.map_some, Option.some.injEq] at nth
    rw [show 7 - (7 - i) = i by omega] at nth
    exact hexDigit_injective (Nat.mod_lt _ (by decide)) (Nat.mod_lt _ (by decide)) nth
  have whole := mod_pow_eq digit
  have small : v.toNat < Nat.pow 16 8 := v.toNat_lt
  have smallToo : w.toNat < Nat.pow 16 8 := w.toNat_lt
  rw [Nat.mod_eq_of_lt small, Nat.mod_eq_of_lt smallToo] at whole
  exact UInt32.toNat_inj.mp whole

theorem flatMap_hexWord_injective {vs ws : List UInt32} (same : vs.flatMap hexWord = ws.flatMap hexWord) : vs = ws := by
  induction vs generalizing ws with
  | nil =>
    cases ws with
    | nil => rfl
    | cons w ws => cases same
  | cons v vs ih =>
    cases ws with
    | nil => cases same
    | cons w ws =>
      obtain ⟨first, rest⟩ := List.append_inj same (by rw [hexWord_length, hexWord_length])
      rw [hexWord_injective first, ih rest]

-- Two messages of one sum.
def Collide (m n : List UInt8) : Prop := m ≠ n ∧ sha256 m = sha256 n

end Digest

theorem digest_eq_iff {s t : String} (apart : ¬ Digest.Collide (utf8 s) (utf8 t)) : digest s = digest t ↔ s = t := by
  constructor
  · intro same
    have sums := Digest.flatMap_hexWord_injective (String.ofList_injective same)
    by_cases equal : utf8 s = utf8 t
    · exact utf8_injective equal
    · exact absurd ⟨equal, sums⟩ apart
  · rintro rfl
    rfl

end Harvester
