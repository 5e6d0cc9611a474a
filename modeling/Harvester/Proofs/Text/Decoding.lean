import Harvester.Proofs.Text.ByteOrder
namespace Harvester.Text

variable {n bits low high digit follow : Nat} {rest : List UInt8} {next : Lead}

theorem decodeFrom_single (short : n < 0x80) :
    decodeFrom none (UInt8.ofNat n :: rest) = Char.ofNat n :: decodeFrom none rest := by
  have value : (UInt8.ofNat n).toNat = n := UInt8.toNat_ofNat_of_lt' (Nat.lt_trans short (by decide))
  rw [decodeFrom]
  simp only [value, if_pos short]

theorem decodeFrom_lead (long : 0x80 ≤ n) (byte : n < 0x100) (leads : lead? n = some next) :
    decodeFrom none (UInt8.ofNat n :: rest) = decodeFrom (some next) rest := by
  have value : (UInt8.ofNat n).toNat = n := UInt8.toNat_ofNat_of_lt' byte
  rw [decodeFrom]
  simp only [value, if_neg (Nat.not_lt.mpr long), leads]

theorem decodeFrom_more (small : digit < 64) (above : low ≤ 0x80 + digit) (below : 0x80 + digit ≤ high) :
    decodeFrom (some ⟨low, high, bits, follow + 2⟩) (UInt8.ofNat (0x80 + digit) :: rest) =
      decodeFrom (some ⟨0x80, 0xBF, bits * 64 + digit, follow + 1⟩) rest := by
  have byte : 0x80 + digit < 0x100 := by omega
  have value : (UInt8.ofNat (0x80 + digit)).toNat = 0x80 + digit := UInt8.toNat_ofNat_of_lt' byte
  have others : follow + 2 ≠ 1 := by omega
  rw [decodeFrom]
  simp only [value, above, below, and_self, if_true, if_neg others, Nat.add_sub_cancel_left]
  rfl

theorem decodeFrom_last (small : digit < 64) (above : low ≤ 0x80 + digit) (below : 0x80 + digit ≤ high) :
    decodeFrom (some ⟨low, high, bits, 1⟩) (UInt8.ofNat (0x80 + digit) :: rest) =
      Char.ofNat (bits * 64 + digit) :: decodeFrom none rest := by
  have byte : 0x80 + digit < 0x100 := by omega
  have value : (UInt8.ofNat (0x80 + digit)).toNat = 0x80 + digit := UInt8.toNat_ofNat_of_lt' byte
  rw [decodeFrom]
  simp only [value, above, below, and_self, if_true, Nat.add_sub_cancel_left]

-- What the first of three bytes asks of the second holds of every character of that length, halves of surrogate pairs
-- being none.
theorem lead?_three (long : 0x800 ≤ n) (short : n < 0x10000) (scalar : n < 0xD800 ∨ 0xDFFF < n) :
    ∃ low high, lead? (0xE0 + n / 4096) = some ⟨low, high, n / 4096, 2⟩ ∧
      low ≤ 0x80 + n / 64 % 64 ∧ 0x80 + n / 64 % 64 ≤ high := by
  unfold lead?
  rw [if_neg (by omega), Nat.add_sub_cancel_left]
  split
  · exact ⟨0xA0, 0xBF, by rw [show n / 4096 = 0 by omega], by omega, by omega⟩
  · split
    · exact ⟨0x80, 0xBF, rfl, by omega, by omega⟩
    · split
      · exact ⟨0x80, 0x9F, by rw [show n / 4096 = 0xD by omega], by omega, by omega⟩
      · rw [if_pos (by omega)]
        exact ⟨0x80, 0xBF, rfl, by omega, by omega⟩

theorem lead?_four (long : 0x10000 ≤ n) (range : n < 0x110000) :
    ∃ low high, lead? (0xF0 + n / 262144) = some ⟨low, high, n / 262144, 3⟩ ∧
      low ≤ 0x80 + n / 4096 % 64 ∧ 0x80 + n / 4096 % 64 ≤ high := by
  unfold lead?
  rw [if_neg (by omega), if_neg (by omega), if_neg (by omega), if_neg (by omega), if_neg (by omega),
    Nat.add_sub_cancel_left]
  split
  · exact ⟨0x90, 0xBF, by rw [show n / 262144 = 0 by omega], by omega, by omega⟩
  · split
    · exact ⟨0x80, 0xBF, rfl, by omega, by omega⟩
    · rw [if_pos (by omega)]
      exact ⟨0x80, 0x8F, by rw [show n / 262144 = 4 by omega], by omega, by omega⟩

-- A character is read back from its bytes, whatever follows them.
theorem decodeFrom_charBytes (c : Char) (rest : List UInt8) :
    decodeFrom none (charBytes c ++ rest) = c :: decodeFrom none rest := by
  have scalar := toNat_scalar c
  have back {n : Nat} (same : n = c.toNat) : Char.ofNat n = c := by rw [same, Char.ofNat_toNat]
  rcases charBytes_cases c with ⟨short, shown⟩ | ⟨long, short, shown⟩ | ⟨long, short, shown⟩ | ⟨long, shown⟩
  · rw [shown, List.singleton_append, decodeFrom_single short, Char.ofNat_toNat]
  · have leads : lead? (0xC0 + c.toNat / 64) = some ⟨0x80, 0xBF, c.toNat / 64, 1⟩ := by
      unfold lead?
      rw [if_pos (by omega), Nat.add_sub_cancel_left]
    rw [shown, List.cons_append, decodeFrom_lead (by omega) (by omega) leads, List.singleton_append,
      decodeFrom_last (by omega) (by omega) (by omega), back (by omega)]
  · obtain ⟨least, most, leads, above, below⟩ := lead?_three long short (by omega)
    rw [shown, List.cons_append, decodeFrom_lead (by omega) (by omega) leads, List.cons_append,
      decodeFrom_more (by omega) above below, List.singleton_append,
      decodeFrom_last (by omega) (by omega) (by omega), back (by omega)]
  · obtain ⟨least, most, leads, above, below⟩ := lead?_four long (by omega)
    rw [shown, List.cons_append, decodeFrom_lead (by omega) (by omega) leads, List.cons_append,
      decodeFrom_more (by omega) above below, List.cons_append, decodeFrom_more (by omega) (by omega) (by omega),
      List.singleton_append, decodeFrom_last (by omega) (by omega) (by omega), back (by omega)]

theorem decodeFrom_flatMap (cs : List Char) : decodeFrom none (cs.flatMap charBytes) = cs := by
  induction cs with
  | nil => rfl
  | cons c cs ih => rw [List.flatMap_cons, decodeFrom_charBytes, ih]

end Harvester.Text
