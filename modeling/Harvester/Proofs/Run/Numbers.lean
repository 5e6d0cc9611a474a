import Mathlib.Data.Nat.Digits.Defs
import Harvester.Parameters
import Harvester.Proofs.Json.Grammar
import Harvester.Proofs.Text.Digits
import Harvester.Proofs.Text.Spacing
namespace Harvester.Text

def Blanks (cs : List Char) : Prop := ∀ c ∈ cs, isBlank c = true

instance (cs : List Char) : Decidable (Blanks cs) := List.decidableBAll _ cs

-- Each digit counts by its place, the last one for itself.
def placeValue (ds : List Char) : Nat := Nat.ofDigits 10 (ds.reverse.map digitValue)

-- One sign or none, and digits behind it.
inductive WritesInteger : List Char → Int → Prop
  | bare (digits : Json.Digits ds) : WritesInteger ds (placeValue ds)
  | plus (digits : Json.Digits ds) : WritesInteger ('+' :: ds) (placeValue ds)
  | minus (digits : Json.Digits ds) : WritesInteger ('-' :: ds) (-(placeValue ds : Int))

-- An integer with nothing but blanks around it.
def Holds (cs : List Char) (z : Int) : Prop :=
  ∃ before body behind, cs = before ++ body ++ behind ∧ Blanks before ∧ Blanks behind ∧ WritesInteger body z

variable {c : Char} {cs ds before body behind : List Char} {z : Int}

-- Reading from the left, every digit lifts those before it by one place.
theorem placeValue_eq_foldl (ds : List Char) : placeValue ds = ds.foldl (fun n c => n * 10 + digitValue c) 0 := by
  rw [placeValue, Nat.ofDigits_eq_foldr, List.map_reverse, List.foldr_reverse, List.foldl_map]
  simp only [Nat.cast_id, Nat.mul_comm, Nat.add_comm]

theorem foldl_undecided (ds : List Char) :
    ds.foldl (fun acc c => acc.bind fun n => if isDigit c then some (n * 10 + digitValue c) else none) none =
      (none : Option Nat) := by
  induction ds with
  | nil => rfl
  | cons d ds ih => exact ih

-- One character that is no digit decides, wherever it stands.
theorem foldl_decimal (ds : List Char) (n : Nat) :
    ds.foldl (fun acc c => acc.bind fun n => if isDigit c then some (n * 10 + digitValue c) else none) (some n) =
      if ds.all isDigit then some (ds.foldl (fun n c => n * 10 + digitValue c) n) else none := by
  induction ds generalizing n with
  | nil => rfl
  | cons d ds ih =>
    cases digit : isDigit d with
    | true => simpa [digit] using ih (n * 10 + digitValue d)
    | false => simpa [digit] using foldl_undecided ds

theorem decimal?_eq_some_iff {n : Nat} : decimal? cs = some n ↔ Json.Digits cs ∧ placeValue cs = n := by
  unfold decimal? Json.Digits
  rw [foldl_decimal, ← placeValue_eq_foldl]
  cases cs with
  | nil => simp
  | cons c cs => simp [List.all_eq_true]

theorem Blanks.trim_between (front : Blanks before) (back : Blanks behind) :
    trim (before ++ body ++ behind) = trim body := by
  induction behind using List.reverseRecOn with
  | nil =>
    rw [List.append_nil]
    unfold trim trimStart
    rw [List.dropWhile_append_of_pos front]
  | append_singleton behind c ih =>
    rw [← List.append_assoc, trim_append_blank (back c List.mem_concat_self)]
    exact ih fun d present => back d (List.mem_append_left [c] present)

-- What is trimmed away are blanks.
theorem trim_parts (cs : List Char) :
    ∃ before behind, cs = before ++ trim cs ++ behind ∧ Blanks before ∧ Blanks behind := by
  have front : Blanks (cs.takeWhile isBlank) := fun c present => List.mem_takeWhile_imp present
  have back : Blanks (((trimStart cs).reverse.takeWhile isBlank).reverse) := fun c present =>
    List.mem_takeWhile_imp (List.mem_reverse.mp present)
  refine ⟨_, _, ?_, front, back⟩
  have end_ : trim cs ++ ((trimStart cs).reverse.takeWhile isBlank).reverse = trimStart cs := by
    unfold trim trimEnd
    rw [← List.reverse_append, List.takeWhile_append_dropWhile, List.reverse_reverse]
  rw [List.append_assoc, end_]
  exact List.takeWhile_append_dropWhile.symm

theorem WritesInteger.visible (written : WritesInteger cs z) : ∀ c ∈ cs, isBlank c = false := by
  cases written with
  | bare digits => exact fun c present => isBlank_digit (digits.2 c present)
  | plus digits => exact List.forall_mem_cons.mpr ⟨rfl, fun c present => isBlank_digit (digits.2 c present)⟩
  | minus digits => exact List.forall_mem_cons.mpr ⟨rfl, fun c present => isBlank_digit (digits.2 c present)⟩

theorem WritesInteger.trim (written : WritesInteger cs z) : trim cs = cs :=
  trim_of_clear (fun c first => written.visible c (List.mem_of_head? first))
    fun c last => written.visible c (List.mem_of_getLast? last)

theorem holds_iff : Holds cs z ↔ WritesInteger (trim cs) z := by
  constructor
  · rintro ⟨before, body, behind, rfl, front, back, written⟩
    rw [front.trim_between back, written.trim]
    exact written
  · intro written
    obtain ⟨before, behind, parts, front, back⟩ := trim_parts cs
    exact ⟨before, trim cs, behind, parts, front, back, written⟩

theorem digits_toDigits (n : Nat) : Json.Digits (Nat.toDigits 10 n) :=
  ⟨List.ne_nil_of_length_pos Nat.length_toDigits_pos, fun _ present => isDigit_of_mem present⟩

theorem placeValue_toDigits (n : Nat) : placeValue (Nat.toDigits 10 n) = n := by
  rw [placeValue_eq_foldl, foldl_toDigits]

theorem writesInteger_intText (z : Int) : WritesInteger (Json.intText z) z := by
  rcases Json.intText_cases z with ⟨n, rfl, shown⟩ | ⟨n, _, rfl, shown⟩
  · have written := WritesInteger.bare (digits_toDigits n)
    rwa [placeValue_toDigits, ← shown] at written
  · have written := WritesInteger.minus (digits_toDigits n)
    rwa [placeValue_toDigits, ← shown] at written

end Harvester.Text

namespace Harvester

open Text

variable {cs ds : List Char} {v : Long}

namespace Long

-- Whatever its size, an integer is kept as it is or not at all.
theorem ofInt?_eq_some_iff {z : Int} : ofInt? z = some v ↔ v.value = z := by
  constructor
  · intro kept
    unfold ofInt? at kept
    split at kept
    · cases kept
      rfl
    · cases kept
  · rintro rfl
    exact dif_pos v.held

theorem digits?_eq_some_iff {negative : Bool} : digits? negative ds = some v ↔
    Json.Digits ds ∧ v.value = if negative then -(placeValue ds : Int) else placeValue ds := by
  unfold digits?
  rw [Option.bind_eq_some_iff]
  constructor
  · rintro ⟨n, read, kept⟩
    obtain ⟨digits, rfl⟩ := decimal?_eq_some_iff.mp read
    exact ⟨digits, ofInt?_eq_some_iff.mp kept⟩
  · rintro ⟨digits, value⟩
    exact ⟨placeValue ds, decimal?_eq_some_iff.mpr ⟨digits, rfl⟩, ofInt?_eq_some_iff.mpr value⟩

theorem ofChars?_bare (digits : Json.Digits ds) : ofChars? ds = digits? false ds := by
  unfold ofChars?
  split
  · exact absurd (digits.2 '+' List.mem_cons_self) (by decide)
  · exact absurd (digits.2 '-' List.mem_cons_self) (by decide)
  · rfl

theorem ofChars?_eq_some_iff : ofChars? cs = some v ↔ WritesInteger cs v.value := by
  constructor
  · intro read
    unfold ofChars? at read
    split at read
    · obtain ⟨digits, value⟩ := digits?_eq_some_iff.mp read
      rw [value]
      exact .plus digits
    · obtain ⟨digits, value⟩ := digits?_eq_some_iff.mp read
      rw [value]
      exact .minus digits
    · obtain ⟨digits, value⟩ := digits?_eq_some_iff.mp read
      rw [value]
      exact .bare digits
  · generalize value : v.value = z
    intro written
    cases written with
    | bare digits =>
      rw [ofChars?_bare digits]
      exact digits?_eq_some_iff.mpr ⟨digits, value⟩
    | plus digits => exact digits?_eq_some_iff.mpr ⟨digits, value⟩
    | minus digits => exact digits?_eq_some_iff.mpr ⟨digits, value⟩

theorem ofText?_eq_some_iff {s : String} : ofText? s = some v ↔ Holds s.toList v.value := by
  rw [holds_iff]
  exact ofChars?_eq_some_iff

end Long

namespace Parameters

variable {p : Parameters} {key : String}

theorem getLong?_long (found : p.get? key = some (.long v)) : p.getLong? key = some v := by
  rw [getLong?, found]
  rfl

theorem getLong?_text {s : String} (found : p.get? key = some (.text s)) : p.getLong? key = Long.ofText? s := by
  rw [getLong?, found]
  rfl

-- A number is read as itself. A text is read as the integer that it holds, when that is a long, and else as nothing.
-- The text of a number is read back as the number, with any blanks around it.
theorem getLong?_exact (p : Parameters) (key : String) :
    (∀ v, p.get? key = some (.long v) → p.getLong? key = some v) ∧
    (∀ s, p.get? key = some (.text s) →
      (∀ z, (p.getLong? key).map Long.value = some z ↔
        Holds s.toList z ∧ Int.minLong ≤ z ∧ z ≤ Int.maxLong) ∧
      (p.getLong? key = none ↔ ¬ ∃ z, Holds s.toList z ∧ Int.minLong ≤ z ∧ z ≤ Int.maxLong)) ∧
    (p.get? key = none → p.getLong? key = none) ∧
    ∀ v, p.get? key = some (.long v) → ∃ text, p.getText? key = some text ∧
      ∀ (q : Parameters) (other before behind : String), Blanks before.toList → Blanks behind.toList →
        getLong? (q.insert other (.text (before ++ text ++ behind))) other = some v := by
  refine ⟨fun v found => getLong?_long found, ?_, ?_, ?_⟩
  · intro s found
    rw [getLong?_text found]
    have exact (z : Int) : (Long.ofText? s).map Long.value = some z ↔
        Holds s.toList z ∧ Int.minLong ≤ z ∧ z ≤ Int.maxLong := by
      rw [Option.map_eq_some_iff]
      constructor
      · rintro ⟨v, read, rfl⟩
        exact ⟨Long.ofText?_eq_some_iff.mp read, v.held⟩
      · rintro ⟨holds, range⟩
        exact ⟨⟨z, range⟩, Long.ofText?_eq_some_iff.mpr holds, rfl⟩
    refine ⟨exact, ?_⟩
    rw [← not_congr (exists_congr exact), ← Option.isSome_iff_exists, Option.isSome_map,
      Option.not_isSome_iff_eq_none]
  · intro missing
    rw [getLong?, missing]
    rfl
  · intro v found
    refine ⟨v.text, by rw [getText?, found]; rfl, ?_⟩
    intro q other before behind front back
    have placed : (q.insert other (.text (before ++ v.text ++ behind))).get? other =
        some (.text (before ++ v.text ++ behind)) := by
      rw [Keyed.get?_insert, if_pos rfl]
    rw [getLong?_text placed, Long.ofText?_eq_some_iff, String.toList_append, String.toList_append]
    exact ⟨_, _, _, rfl, front, back, writesInteger_intText v.value⟩

def leastLong : Long := ⟨Int.minLong, by decide⟩

-- The smallest long, written with zeros in front and blanks around it, the integer below it, and a sign alone.
theorem getLong?_exact_least :
    let texts : Parameters := Keyed.ofList [("alone", .text " + "), ("below", .text "-9223372036854775809"),
      ("least", .text "\u00a0-0009223372036854775808\n"), ("run.id", .long leastLong)]
    texts.getLong? "run.id" = some leastLong ∧ texts.getLong? "page" = none ∧
      Holds "\u00a0-0009223372036854775808\n".toList Int.minLong ∧
      (¬ ∃ z, Holds "-9223372036854775809".toList z ∧ Int.minLong ≤ z ∧ z ≤ Int.maxLong) ∧
      (¬ ∃ z, Holds " + ".toList z ∧ Int.minLong ≤ z ∧ z ≤ Int.maxLong) ∧
      ∃ text, texts.getText? "run.id" = some text ∧
        getLong? (texts.insert "page" (.text ("\t " ++ text ++ "\u2003"))) "page" = some leastLong := by
  intro texts
  refine ⟨(getLong?_exact texts "run.id").1 leastLong rfl, (getLong?_exact texts "page").2.2.1 rfl, ?_, ?_, ?_, ?_⟩
  · exact ((((getLong?_exact texts "least").2.1 _ rfl).1 Int.minLong).mp (by decide +kernel)).1
  · exact ((getLong?_exact texts "below").2.1 _ rfl).2.mp (by decide +kernel)
  · exact ((getLong?_exact texts "alone").2.1 _ rfl).2.mp (by decide +kernel)
  · obtain ⟨text, shown, back⟩ := (getLong?_exact texts "run.id").2.2.2 leastLong rfl
    exact ⟨text, shown, back texts "page" "\t " "\u2003" (by decide) (by decide)⟩

end Parameters

end Harvester
