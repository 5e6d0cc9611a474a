import Harvester.Http.Form
import Harvester.Proofs.Json.CodeUnits
import Harvester.Proofs.Text.Decoding
namespace Harvester.Http

open Text

variable {b : UInt8} {c : Char} {piece rest : List Char}

theorem hexValue_upperHex : ∀ d < 16, hexValue? (upperHex d) = some d := by decide

-- Letters, digits and four signs, all of them ASCII.
theorem plain_short (plain : standsForItself b = true) : b.toNat < 0x80 := by
  simp only [standsForItself, Bool.or_eq_true, Bool.and_eq_true, decide_eq_true_eq, beq_iff_eq] at plain
  omega

theorem plain_ne (plain : standsForItself b = true) (sign : standsForItself (UInt8.ofNat c.toNat) = false) :
    Char.ofNat b.toNat ≠ c := by
  have byte : b.toNat < 256 := b.toNat_lt
  rintro rfl
  rw [Json.ofNat_toNat (by omega), UInt8.ofNat_toNat, plain] at sign
  cases sign

theorem formByte_cases (b : UInt8) :
    (standsForItself b = true ∧ formByte b = [Char.ofNat b.toNat]) ∨ (b = 0x20 ∧ formByte b = ['+']) ∨
      formByte b = percentByte b := by
  unfold formByte
  split
  · exact .inl ⟨by assumption, rfl⟩
  · split
    · exact .inr (.inl ⟨by assumption, rfl⟩)
    · exact .inr (.inr rfl)

-- A byte is read back from its spelling, whatever follows.
theorem formBytes_formByte (b : UInt8) (rest : List Char) : formBytes (formByte b ++ rest) = b :: formBytes rest := by
  have byte : b.toNat < 256 := b.toNat_lt
  rcases formByte_cases b with ⟨plain, shown⟩ | ⟨rfl, shown⟩ | shown
  · have bytes : charBytes (Char.ofNat b.toNat) = [b] := by
      rw [charBytes, Json.ofNat_toNat (by omega)]
      simp [plain_short plain]
    rw [shown, List.singleton_append, formBytes, bytes, List.singleton_append]
    · exact plain_ne plain (by decide)
    · exact fun _ _ _ same _ => plain_ne plain (by decide) same
  · rw [shown, List.singleton_append, formBytes]
  · rw [shown, percentByte, List.cons_append, List.cons_append, List.cons_append, List.nil_append, formBytes,
      hexValue_upperHex _ (by omega), hexValue_upperHex _ (by omega)]
    simp only [show b.toNat / 16 * 16 + b.toNat % 16 = b.toNat by omega, UInt8.ofNat_toNat]

theorem formBytes_flatMap (bytes : List UInt8) : formBytes (bytes.flatMap formByte) = bytes := by
  induction bytes with
  | nil => rfl
  | cons b bytes ih => rw [List.flatMap_cons, formBytes_formByte, ih]

-- A text is read back from its spelling, all its characters.
theorem formValue_formText (s : String) : formValue (formText s) = s := by
  rw [formValue, formText, formBytes_flatMap, utf8, decodeFrom_flatMap, String.ofList_toList]

-- None of the signs that part an address or its pairs stands in what a byte is spelled with.
theorem mem_percentByte (present : c ∈ percentByte b) : c ≠ '&' ∧ c ≠ '=' ∧ c ≠ '#' ∧ c ≠ '?' := by
  have byte : b.toNat < 256 := b.toNat_lt
  have digit (d : Nat) (small : d < 16) :
      upperHex d ≠ '&' ∧ upperHex d ≠ '=' ∧ upperHex d ≠ '#' ∧ upperHex d ≠ '?' := by
    revert d
    decide
  rw [percentByte, List.mem_cons, List.mem_cons, List.mem_singleton] at present
  rcases present with rfl | rfl | rfl
  · decide
  · exact digit _ (by omega)
  · exact digit _ (by omega)

theorem mem_formByte (present : c ∈ formByte b) : c ≠ '&' ∧ c ≠ '=' ∧ c ≠ '#' := by
  rcases formByte_cases b with ⟨plain, shown⟩ | ⟨rfl, shown⟩ | shown
  · rw [shown, List.mem_singleton] at present
    rw [present]
    exact ⟨plain_ne plain (by decide), plain_ne plain (by decide), plain_ne plain (by decide)⟩
  · rw [shown, List.mem_singleton] at present
    rw [present]
    decide
  · rw [shown] at present
    obtain ⟨ampersand, equals, number, _⟩ := mem_percentByte present
    exact ⟨ampersand, equals, number⟩

theorem mem_formText {s : String} (present : c ∈ formText s) : c ≠ '&' ∧ c ≠ '=' ∧ c ≠ '#' := by
  obtain ⟨b, _, spelled⟩ := List.mem_flatMap.mp present
  exact mem_formByte spelled

theorem mem_formPair {pair : String × String} (present : c ∈ formPair pair) : c ≠ '&' ∧ c ≠ '#' := by
  rcases List.mem_append.mp present with name | value
  · exact ⟨(mem_formText name).1, (mem_formText name).2.2⟩
  · rcases List.mem_cons.mp value with rfl | value
    · decide
    · exact ⟨(mem_formText value).1, (mem_formText value).2.2⟩

-- The name ends at the `=` that was put behind it, since there is none in it.
theorem readPair_formPair (pair : String × String) : readPair (formPair pair) = pair := by
  have name : ∀ c ∈ formText pair.1, (c != '=') = true := fun c present => by simpa using (mem_formText present).2.1
  have before : (formPair pair).takeWhile (· != '=') = formText pair.1 := by
    rw [formPair, List.takeWhile_append_of_pos name, List.takeWhile_cons_of_neg (by decide), List.append_nil]
  have behind : (formPair pair).dropWhile (· != '=') = '=' :: formText pair.2 := by
    rw [formPair, List.dropWhile_append_of_pos name, List.dropWhile_cons_of_neg (by decide)]
  rw [readPair, before, behind, List.drop_one, List.tail_cons, formValue_formText, formValue_formText]

theorem splitAt_single (separator : Char) (clean : ∀ c ∈ piece, c ≠ separator) : splitAt separator piece = [piece] := by
  induction piece with
  | nil => rfl
  | cons c piece ih =>
    rw [splitAt, ih fun d present => clean d (List.mem_cons_of_mem c present)]
    simp only [if_neg (clean c List.mem_cons_self)]

theorem splitAt_append (separator : Char) (clean : ∀ c ∈ piece, c ≠ separator) (rest : List Char) :
    splitAt separator (piece ++ separator :: rest) = piece :: splitAt separator rest := by
  induction piece with
  | nil =>
    rw [List.nil_append, splitAt]
    cases pieces : splitAt separator rest with
    | nil => cases rest with
      | nil => cases pieces
      | cons c rest =>
        rw [splitAt] at pieces
        split at pieces
        · split at pieces <;> cases pieces
        · cases pieces
    | cons first others => simp
  | cons c piece ih =>
    rw [List.cons_append, splitAt, ih fun d present => clean d (List.mem_cons_of_mem c present)]
    simp only [if_neg (clean c List.mem_cons_self)]

theorem splitAt_formPairs (pair : String × String) (pairs : List (String × String)) :
    splitAt '&' (formPairs (pair :: pairs)) = (pair :: pairs).map formPair := by
  induction pairs generalizing pair with
  | nil => exact splitAt_single '&' fun c present => (mem_formPair present).1
  | cons next pairs ih =>
    rw [formPairs, splitAt_append '&' fun c present => (mem_formPair present).1, ih]
    rfl

theorem mem_formPairs {pairs : List (String × String)} (present : c ∈ formPairs pairs) : c ≠ '#' := by
  induction pairs with
  | nil => cases present
  | cons pair pairs ih =>
    cases pairs with
    | nil => exact (mem_formPair present).2
    | cons next pairs =>
      rcases List.mem_append.mp present with first | later
      · exact (mem_formPair first).2
      · rcases List.mem_cons.mp later with rfl | later
        · decide
        · exact ih later

-- A list of pairs is read back from its spelling: the same names and values in the same order, and no more.
theorem readPairs_formPairs (pairs : List (String × String)) : readPairs (formPairs pairs) = pairs := by
  cases pairs with
  | nil => rfl
  | cons pair pairs =>
    have kept : ((pair :: pairs).map formPair).filter (fun piece => !piece.isEmpty) = (pair :: pairs).map formPair := by
      refine List.filter_eq_self.mpr fun piece present => ?_
      obtain ⟨each, _, rfl⟩ := List.mem_map.mp present
      simp [formPair]
    rw [readPairs, splitAt_formPairs, kept, List.map_map]
    exact List.map_id'' readPair_formPair _

end Harvester.Http
