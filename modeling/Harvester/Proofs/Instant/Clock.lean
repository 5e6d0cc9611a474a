import Harvester.Instant.Reading
import Harvester.Proofs.Instant.Calendar
import Harvester.Proofs.Text.Digits
namespace Harvester

-- A reading of calendar and wall clock, with its distance from UTC in seconds. Second 60 is the leap second.
structure Clock where
  date : Date
  hour : Nat
  minute : Nat
  second : Nat
  nanos : Nat
  offset : Int
deriving Repr, DecidableEq

namespace Clock

open Text Instant

def IsProper (c : Clock) : Prop :=
  c.date.IsDate ∧ c.hour < 24 ∧ c.minute < 60 ∧ c.second ≤ 60 ∧ c.nanos < 1000000000 ∧ -86400 < c.offset ∧
    c.offset < 86400

instance (c : Clock) : Decidable c.IsProper := by unfold IsProper; infer_instance

def instant? (c : Clock) : Option Instant := ofParts? c.date c.hour c.minute c.second c.nanos c.offset

-- The moment of the reading. A leap second counts as the second before it, with nanoseconds beyond the last.
def moment (c : Clock) : Instant where
  seconds := c.date.toDays * 86400 + c.hour * 3600 + c.minute * 60 + (if c.second = 60 then 59 else c.second) - c.offset
  nanos := if c.second = 60 then c.nanos + 1000000000 else c.nanos

theorem instant?_iff {c : Clock} {t : Instant} : c.instant? = some t ↔
    c.IsProper ∧ c.moment = t ∧ Date.firstYear ≤ t.date.year ∧ t.date.year ≤ Date.lastYear := by
  have unfolded : c.instant? = if c.IsProper then
      if Date.firstYear ≤ c.moment.date.year ∧ c.moment.date.year ≤ Date.lastYear then some c.moment else none
      else none := rfl
  rw [unfolded]
  split
  · rename_i proper
    split
    · rename_i range
      constructor
      · rintro ⟨⟩
        exact ⟨proper, rfl, range⟩
      · rintro ⟨_, rfl, _⟩
        rfl
    · rename_i range
      constructor
      · rintro ⟨⟩
      · rintro ⟨_, rfl, within⟩
        exact absurd within range
  · rename_i improper
    exact ⟨fun none => (nomatch none), fun ⟨proper, _⟩ => absurd proper improper⟩

-- What stands between date and time.
def separator? : List Char → Option (List Char)
  | c :: rest => if c = 't' ∨ c = 'T' ∨ c = ' ' then some rest else none
  | [] => none

-- A zone, which may be called `UTC`.
def wireZone? (cs : List Char) : Option (Int × List Char) :=
  match cs with
  | a :: b :: c :: rest =>
    if lowerAscii a = 'u' ∧ lowerAscii b = 't' ∧ lowerAscii c = 'c' then some (0, rest) else zone? .loose true cs
  | _ => zone? .loose true cs

-- What a time stamp says, before it is checked.
def read? (text : String) : Option Clock := do
  let (date, cs) ← looseDate? true text.toList
  let cs ← separator? cs
  let ((hour, minute, second), cs) ← looseTime? true cs
  let (nanos, cs) ← fraction? cs
  let (offset, cs) ← wireZone? (trimStart cs)
  if (trimStart cs).isEmpty then some ⟨date, hour, minute, second, nanos, offset⟩ else none

theorem ofWire?_read (text : String) : ofWire? text = (read? text).bind instant? := by
  unfold ofWire? read?
  rcases looseDate? true text.toList with _ | ⟨date, cs⟩
  · rfl
  simp only [Option.bind_eq_bind, Option.bind_some]
  rcases cs with _ | ⟨c, cs⟩
  · rfl
  simp only [separator?]
  split
  · simp only [Option.bind_some]
    rcases looseTime? true cs with _ | ⟨⟨hour, minute, second⟩, cs⟩
    · rfl
    simp only [Option.bind_some]
    rcases fraction? cs with _ | ⟨nanos, cs⟩
    · rfl
    have ended (zone : Option (Int × List Char)) :
        (zone.bind fun found =>
          if (trimStart found.2).isEmpty then ofParts? date hour minute second nanos found.1 else none) =
        (zone.bind fun found =>
          if (trimStart found.2).isEmpty then some ⟨date, hour, minute, second, nanos, found.1⟩ else none).bind
            instant? := by
      rcases zone with _ | ⟨offset, cs⟩
      · rfl
      simp only [Option.bind_some]
      split <;> rfl
    simp only [Option.bind_some, wireZone?]
    rcases trimStart cs with _ | ⟨a, _ | ⟨b, _ | ⟨c, rest⟩⟩⟩
    · exact ended _
    · exact ended _
    · exact ended _
    · simp only []
      split
      · exact ended (some (0, rest))
      · exact ended _
  · rfl

-- Digits come to an end where the most that may be there are read, or where no digit follows.
theorem digitsFrom_digits {ds rest : List Char} (digits : ∀ c ∈ ds, isDigit c = true) (value count : Nat) {most : Nat}
    (fits : ds.length ≤ most) (ended : ds.length = most ∨ ∀ c ∈ rest.head?, isDigit c = false) :
    digitsFrom value count most (ds ++ rest) =
      (ds.foldl (fun n c => n * 10 + digitValue c) value, count + ds.length, rest) := by
  induction ds generalizing value count most with
  | nil =>
    rcases most with _ | most
    · rfl
    rcases rest with _ | ⟨c, rest⟩
    · rfl
    have other : isDigit c = false := by
      rcases ended with full | next
      · cases full
      · exact next c rfl
    simp [digitsFrom, other]
  | cons d ds ih =>
    rcases most with _ | most
    · simp at fits
    have first := digits d List.mem_cons_self
    have others := ih (fun c later => digits c (List.mem_cons_of_mem d later)) (value * 10 + digitValue d) (count + 1)
      (Nat.le_of_succ_le_succ fits) (ended.imp Nat.succ.inj id)
    simp only [List.cons_append, digitsFrom, first, if_true, others, List.foldl_cons, List.length_cons]
    congr 2
    omega

theorem digits?_digits {ds rest : List Char} (digits : ∀ c ∈ ds, isDigit c = true) {least most : Nat}
    (enough : least ≤ ds.length) (fits : ds.length ≤ most)
    (ended : ds.length = most ∨ ∀ c ∈ rest.head?, isDigit c = false) :
    digits? least most (ds ++ rest) = some (ds.foldl (fun n c => n * 10 + digitValue c) 0, rest) := by
  have counted : ¬0 + ds.length < least := by omega
  simp only [digits?, digitsFrom_digits digits 0 0 fits ended, counted, if_false]

-- A number of a fixed width is read whatever follows it.
theorem digits?_padded {width n least : Nat} (wide : 0 < width) (fits : n < Nat.pow 10 width) (enough : least ≤ width)
    (rest : List Char) : digits? least width ((padded width n).toList ++ rest) = some (n, rest) := by
  have length := padded_length wide fits
  rw [digits?_digits padded_digits (by omega) (by omega) (.inl length), padded_value]

theorem trimStart_digits {ds : List Char} (digits : ∀ c ∈ ds, isDigit c = true) (some : 0 < ds.length)
    (rest : List Char) : trimStart (ds ++ rest) = ds ++ rest := by
  rcases ds with _ | ⟨d, ds⟩
  · cases some
  · simp [trimStart, isBlank_digit (digits d List.mem_cons_self)]

theorem twoDigits?_padded {n : Nat} (fits : n < 100) (rest : List Char) :
    twoDigits? ((padded 2 n).toList ++ rest) = some (n, rest) := by
  rw [twoDigits?, trimStart_digits padded_digits padded_positive, digits?_padded (by decide) fits (by decide)]

theorem year?_plain {ds : List Char} (digits : ∀ c ∈ ds, isDigit c = true) (some : 0 < ds.length) (rest : List Char) :
    year? (ds ++ rest) = (digits? 1 4 (ds ++ rest)).map fun (n, behind) => ((n : Int), behind) := by
  unfold year?
  rw [trimStart_digits digits some]
  rcases ds with _ | ⟨d, ds⟩
  · cases some
  have first := digits d List.mem_cons_self
  rw [List.cons_append]
  split
  · rename_i same
    obtain ⟨rfl, _⟩ := List.cons.inj same
    cases first
  · rename_i same
    obtain ⟨rfl, _⟩ := List.cons.inj same
    cases first
  · rfl

-- Behind a sign all digits belong to the year, up to the hyphen.
theorem digits?_signed (n : Nat) (rest : List Char) :
    digits? 1 ((padded 4 n).toList ++ '-' :: rest).length ((padded 4 n).toList ++ '-' :: rest) =
      some (n, '-' :: rest) := by
  have hyphen : ∀ c ∈ ('-' :: rest).head?, isDigit c = false := by
    rintro c ⟨⟩
    rfl
  rw [digits?_digits padded_digits padded_positive (by simp) (.inr hyphen), padded_value]

theorem year?_yearText (year : Int) (rest : List Char) :
    year? ((yearText year).toList ++ '-' :: rest) = some (year, '-' :: rest) := by
  unfold yearText
  split
  · rename_i plain
    have fits : year.toNat < 10000 := by omega
    have back : (year.toNat : Int) = year := by omega
    rw [year?_plain padded_digits padded_positive, digits?_padded (by decide) fits (by decide)]
    simp only [Option.map_some, back]
  · have signed := digits?_signed year.natAbs rest
    have minus : isBlank '-' = false := by decide
    have plus : isBlank '+' = false := by decide
    split
    · have back : -(year.natAbs : Int) = year := by omega
      simp only [String.toList_append, String.reduceToList, List.cons_append, List.nil_append, year?, trimStart,
        List.dropWhile_cons, minus, Bool.false_eq_true, if_false, signed, Option.map_some, back]
    · have back : (year.natAbs : Int) = year := by omega
      simp only [String.toList_append, String.reduceToList, List.cons_append, List.nil_append, year?, trimStart,
        List.dropWhile_cons, plus, Bool.false_eq_true, if_false, signed, Option.map_some, back]

-- A fraction of some digits stands for as many nanoseconds as its digits leave places.
theorem fraction?_padded {width n : Nat} (wide : 0 < width) (narrow : width ≤ 9) (fits : n < Nat.pow 10 width)
    (rest : List Char) :
    fraction? ('.' :: ((padded width n).toList ++ 'Z' :: rest)) = some (n * Nat.pow 10 (9 - width), 'Z' :: rest) := by
  have length := padded_length wide fits
  have letter : ∀ c ∈ ('Z' :: rest).head?, isDigit c = false := by
    rintro c ⟨⟩
    rfl
  have behind : isDigit 'Z' = false := rfl
  have counted : ¬width = 0 := by omega
  have read : digitsFrom 0 0 9 ((padded width n).toList ++ 'Z' :: rest) = (n, 0 + width, 'Z' :: rest) := by
    rw [digitsFrom_digits padded_digits 0 0 (by omega) (.inr letter), padded_value, length]
  simp only [fraction?, read, counted, if_false, List.dropWhile_cons, behind, Bool.false_eq_true, Nat.zero_add]

theorem fraction?_fractionText {nanos : Nat} (fits : nanos < 1000000000) (rest : List Char) :
    fraction? ((fractionText nanos).toList ++ 'Z' :: rest) = some (nanos, 'Z' :: rest) := by
  have pointed {width n : Nat} (wide : 0 < width) (narrow : width ≤ 9) (within : n < Nat.pow 10 width)
      (same : n * Nat.pow 10 (9 - width) = nanos) :
      fraction? (("." ++ padded width n).toList ++ 'Z' :: rest) = some (nanos, 'Z' :: rest) := by
    simp only [String.toList_append, String.reduceToList, List.cons_append, List.nil_append]
    rw [fraction?_padded wide narrow within, same]
  unfold fractionText
  split
  · rename_i none
    rw [none]
    rfl
  split
  · have within : nanos / 1000000 < 1000 := by omega
    have same : nanos / 1000000 * 1000000 = nanos := by omega
    exact pointed (by decide) (by decide) within same
  split
  · have within : nanos / 1000 < 1000000 := by omega
    have same : nanos / 1000 * 1000 = nanos := by omega
    exact pointed (by decide) (by decide) within same
  · exact pointed (by decide) (by decide) fits (Nat.mul_one nanos)

theorem literal?_next {c : Char} (visible : isBlank c = false) (rest : List Char) :
    literal? c (trimStart (c :: rest)) = some rest := by
  simp [trimStart, visible, literal?]

theorem looseDate?_padded {date : Date} (month : date.month < 100) (day : date.day < 100) (rest : List Char) :
    looseDate? true ((yearText date.year).toList ++ '-' :: ((padded 2 date.month).toList ++
      '-' :: ((padded 2 date.day).toList ++ rest))) = some (date, rest) := by
  have hyphen : isBlank '-' = false := by decide
  simp only [looseDate?, if_true, year?_yearText, literal?_next hyphen, twoDigits?_padded month, twoDigits?_padded day,
    Option.bind_eq_bind, Option.bind_some]

theorem looseTime?_padded {hour minute second : Nat} (h : hour < 100) (m : minute < 100) (s : second < 100)
    (rest : List Char) :
    looseTime? true ((padded 2 hour).toList ++ ':' :: ((padded 2 minute).toList ++
      ':' :: ((padded 2 second).toList ++ rest))) = some ((hour, minute, second), rest) := by
  have colon : isBlank ':' = false := by decide
  simp only [looseTime?, if_true, literal?_next colon, twoDigits?_padded h, twoDigits?_padded m, twoDigits?_padded s,
    Option.bind_eq_bind, Option.bind_some]

-- The reading as it is written: in full width, with the shortest exact fraction.
def text (c : Clock) : String :=
  yearText c.date.year ++ "-" ++ padded 2 c.date.month ++ "-" ++ padded 2 c.date.day ++ "T" ++ padded 2 c.hour ++ ":" ++
    padded 2 c.minute ++ ":" ++ padded 2 c.second ++ fractionText c.nanos ++ "Z"

-- A reading in UTC is found again in what is written of it.
theorem read?_text {c : Clock} (proper : c.IsProper) (utc : c.offset = 0) : read? c.text = some c := by
  obtain ⟨⟨_, _, _, lastMonth, _, lastDay⟩, hour, minute, second, nanos, _, _⟩ := proper
  have month : c.date.month < 100 := by omega
  have day : c.date.day < 100 := by
    unfold Date.monthLength at lastDay
    split at lastDay <;> (try split at lastDay) <;> omega
  have spelled : c.text.toList = (yearText c.date.year).toList ++ '-' :: ((padded 2 c.date.month).toList ++
      '-' :: ((padded 2 c.date.day).toList ++ 'T' :: ((padded 2 c.hour).toList ++ ':' :: ((padded 2 c.minute).toList ++
        ':' :: ((padded 2 c.second).toList ++ ((fractionText c.nanos).toList ++ ['Z'])))))) := by
    simp [text]
  have parted (rest : List Char) : separator? ('T' :: rest) = some rest := rfl
  have zone : wireZone? (trimStart ['Z']) = some (0, []) := by decide
  simp only [read?, spelled, looseDate?_padded month day, parted, looseTime?_padded (by omega : c.hour < 100)
    (by omega : c.minute < 100) (by omega : c.second < 100), fraction?_fractionText nanos, zone, Option.bind_eq_bind,
    Option.bind_some]
  rw [← utc]
  rfl

end Clock

-- The reading of a moment in UTC.
def Instant.clock (t : Instant) : Clock :=
  let s := (t.seconds % 86400).toNat
  { date := t.date
    hour := s / 3600
    minute := s / 60 % 60
    second := if 1000000000 ≤ t.nanos then s % 60 + 1 else s % 60
    nanos := if 1000000000 ≤ t.nanos then t.nanos - 1000000000 else t.nanos
    offset := 0 }

namespace Instant

-- A leap second is read off the clock as the second after it. Only at the end of a minute is that a number of its own,
-- which tells it from all other seconds.
def IsTold (t : Instant) : Prop := 1000000000 ≤ t.nanos → t.seconds % 60 = 59

instance (t : Instant) : Decidable t.IsTold := by unfold IsTold; infer_instance

-- As far into the second after a leap second as `t` is into the leap second.
def following (t : Instant) : Instant := ⟨t.seconds + 1, t.nanos - 1000000000⟩

theorem render_clock (t : Instant) : t.render = t.clock.text := rfl

variable {t : Instant}

theorem clock_proper (held : t.IsHeld) : t.clock.IsProper := by
  obtain ⟨first, last, nanos⟩ := held
  refine ⟨Date.ofDays_isDate first last, ?_⟩
  simp only [clock]
  refine ⟨by omega, by omega, ?_, ?_, by decide, by decide⟩
  · split <;> omega
  · split <;> omega

theorem clock_second (told : t.IsTold) : t.clock.second = 60 ↔ 1000000000 ≤ t.nanos := by
  simp only [clock]
  split
  · have last := told ‹_›
    omega
  · omega

theorem clock_moment (told : t.IsTold) : t.clock.moment = t := by
  obtain ⟨seconds, nanos⟩ := t
  have number : (clock ⟨seconds, nanos⟩).second = 60 ↔ 1000000000 ≤ nanos := clock_second told
  have days : (clock ⟨seconds, nanos⟩).date.toDays = seconds / 86400 := Date.toDays_ofDays _
  have timed : ((seconds % 86400).toNat / 3600 : Nat) * 3600 + ((seconds % 86400).toNat / 60 % 60 : Nat) * 60 +
      ((seconds % 86400).toNat % 60 : Nat) = seconds % 86400 := by omega
  by_cases leap : 1000000000 ≤ nanos
  · have last : seconds % 60 = 59 := told leap
    rw [Clock.moment, if_pos (number.mpr leap), if_pos (number.mpr leap), days]
    simp only [clock, leap, if_true, Instant.mk.injEq]
    omega
  · rw [Clock.moment, if_neg (mt number.mp leap), if_neg (mt number.mp leap), days]
    simp only [clock, leap, if_false, Instant.mk.injEq, and_true]
    omega

theorem clock_instant (held : t.IsHeld) (told : t.IsTold) : t.clock.instant? = some t :=
  Clock.instant?_iff.mpr ⟨clock_proper held, clock_moment told, held.1, held.2.1⟩

-- A moment is found again in its time stamp.
theorem ofWire?_render (held : t.IsHeld) (told : t.IsTold) : ofWire? t.render = some t := by
  rw [Clock.ofWire?_read, render_clock, Clock.read?_text (clock_proper held) rfl, Option.bind_some,
    clock_instant held told]

theorem untold_iff : ¬t.IsTold ↔ 1000000000 ≤ t.nanos ∧ t.seconds % 60 ≠ 59 := Classical.not_imp

theorem following_told (held : t.IsHeld) : t.following.IsTold := by
  intro leap
  have few := held.2.2
  simp only [following] at leap
  omega

section

variable (untold : ¬t.IsTold)
include untold

-- The second after is in the same minute.
theorem following_date : t.following.date = t.date := by
  obtain ⟨_, inside⟩ := untold_iff.mp untold
  have day : (t.seconds + 1) / 86400 = t.seconds / 86400 := by omega
  simp only [date, following, day]

theorem following_held (held : t.IsHeld) : t.following.IsHeld := by
  obtain ⟨first, last, few⟩ := held
  refine ⟨?_, ?_, ?_⟩
  · rwa [following_date untold]
  · rwa [following_date untold]
  · simp only [following]
    omega

theorem following_clock (held : t.IsHeld) : t.following.clock = t.clock := by
  obtain ⟨leap, inside⟩ := untold_iff.mp untold
  have few := held.2.2
  have plain : ¬1000000000 ≤ t.following.nanos := by
    simp only [following]
    omega
  have next : (t.following.seconds % 86400).toNat = (t.seconds % 86400).toNat + 1 := by
    simp only [following]
    omega
  have hour : ((t.seconds % 86400).toNat + 1) / 3600 = (t.seconds % 86400).toNat / 3600 := by omega
  have minute : ((t.seconds % 86400).toNat + 1) / 60 % 60 = (t.seconds % 86400).toNat / 60 % 60 := by omega
  have second : ((t.seconds % 86400).toNat + 1) % 60 = (t.seconds % 86400).toNat % 60 + 1 := by omega
  unfold clock
  dsimp only
  rw [following_date untold, next, hour, minute, second, if_pos leap, if_pos leap, if_neg plain, if_neg plain]
  rfl

-- Both have one time stamp.
theorem render_following (held : t.IsHeld) : t.following.render = t.render := by
  rw [render_clock, render_clock, following_clock untold held]

end

end Instant

namespace Clock

open Text Instant

-- Zones are given in minutes.
theorem zone?_minutes {style : ZoneStyle} {zulu : Bool} {cs rest : List Char} {zone : Int}
    (read : zone? style zulu cs = some (zone, rest)) : zone % 60 = 0 := by
  unfold zone? at read
  split at read
  · cases read
  · split at read
    · cases read
      rfl
    · dsimp only at read
      split at read
      · rename_i sign hours behind _ _
        split at read
        · split at read
          · rename_i minutes _ _ _
            obtain ⟨rfl, _⟩ := Prod.mk.inj (Option.some.inj read)
            have whole : (hours : Int) * 3600 + (minutes : Int) * 60 = 60 * (hours * 60 + minutes) := by omega
            rw [whole, Int.mul_left_comm]
            exact Int.mul_emod_right 60 _
          · cases read
        · cases read
      · cases read

theorem read?_minutes {stamp : String} {c : Clock} (read : read? stamp = some c) : c.offset % 60 = 0 := by
  simp only [read?, Option.bind_eq_bind, Option.bind_eq_some_iff] at read
  obtain ⟨_, _, _, _, _, _, _, _, ⟨_, _⟩, zone, ended⟩ := read
  split at ended
  · cases ended
    unfold wireZone? at zone
    split at zone
    · split at zone
      · cases zone
        rfl
      · exact zone?_minutes zone
    · exact zone?_minutes zone
  · cases ended

-- Readings of one moment: equally far on the line of seconds, where leap seconds are counted, and both of them or none
-- within a leap second.
structure SameMoment (a b : Clock) : Prop where
  line : a.date.toDays * 86400 + a.hour * 3600 + a.minute * 60 + a.second - a.offset =
    b.date.toDays * 86400 + b.hour * 3600 + b.minute * 60 + b.second - b.offset
  nanos : a.nanos = b.nanos
  leap : a.second = 60 ↔ b.second = 60

theorem sameMoment_of_moment {a b : Clock} (left : a.IsProper) (right : b.IsProper) (same : a.moment = b.moment) :
    a.SameMoment b := by
  obtain ⟨_, _, _, _, leftNanos, _⟩ := left
  obtain ⟨_, _, _, _, rightNanos, _⟩ := right
  simp only [moment, Instant.mk.injEq] at same
  obtain ⟨seconds, nanos⟩ := same
  have leap : a.second = 60 ↔ b.second = 60 := by
    constructor
    · intro sixty
      rw [if_pos sixty] at nanos
      split at nanos <;> omega
    · intro sixty
      rw [if_pos sixty] at nanos
      split at nanos <;> omega
  by_cases sixty : a.second = 60
  · have other := leap.mp sixty
    rw [if_pos sixty, if_pos other] at seconds nanos
    exact ⟨by omega, by omega, leap⟩
  · have other := mt leap.mpr sixty
    rw [if_neg sixty, if_neg other] at seconds nanos
    exact ⟨seconds, nanos, leap⟩

variable {c : Clock} {t : Instant} (meant : c.instant? = some t)
include meant

theorem instant?_held : t.IsHeld := by
  obtain ⟨⟨_, _, _, _, nanos, _⟩, rfl, first, last⟩ := instant?_iff.mp meant
  refine ⟨first, last, ?_⟩
  simp only [moment]
  split <;> omega

variable (minutes : c.offset % 60 = 0)
include minutes

-- A leap second that is read ends a minute in UTC too.
theorem instant?_told : t.IsTold := by
  obtain ⟨⟨_, _, _, _, nanos, _⟩, rfl, _⟩ := instant?_iff.mp meant
  unfold Instant.IsTold
  simp only [moment]
  split <;> omega

-- A reading in any zone and the reading in UTC of what it means are one moment.
theorem instant?_sameMoment : c.SameMoment t.clock := by
  have held := instant?_held meant
  have told := instant?_told meant minutes
  obtain ⟨proper, moment, _⟩ := instant?_iff.mp meant
  exact sameMoment_of_moment proper (Instant.clock_proper held) (moment.trans (Instant.clock_moment told).symm)

end Clock

end Harvester
