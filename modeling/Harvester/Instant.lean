import Harvester.Text.Blank
import Harvester.Instant.Calendar
namespace Harvester

-- A moment in UTC: whole seconds since 1970-01-01T00:00:00Z and nanoseconds. Nanoseconds from 10^9 on stand for a leap
-- second that follows the second.
structure Instant where
  seconds : Int
  nanos : Nat
deriving Repr, DecidableEq, Inhabited

namespace Instant

def epoch : Instant := ⟨0, 0⟩

def date (t : Instant) : Date := Date.ofDays (t.seconds / 86400)

-- The moments that can be held: a date in range, and at most one leap second, which may follow any second.
def IsHeld (t : Instant) : Prop :=
  Date.firstYear ≤ t.date.year ∧ t.date.year ≤ Date.lastYear ∧ t.nanos < 2000000000

instance (t : Instant) : Decidable t.IsHeld := by unfold IsHeld; infer_instance

-- A count of seconds as a moment, when its date is in range.
def ofSeconds? (seconds : Int) : Option Instant :=
  if (⟨seconds, 0⟩ : Instant).IsHeld then some ⟨seconds, 0⟩ else none

-- A wall clock reading with its distance from UTC in seconds. Second 60 is the leap second.
def ofParts? (date : Date) (hour minute second nanos : Nat) (offset : Int) : Option Instant :=
  if date.IsDate ∧ hour < 24 ∧ minute < 60 ∧ second ≤ 60 ∧ nanos < 1000000000 ∧ -86400 < offset ∧ offset < 86400 then
    let leap := second = 60
    let t : Instant := ⟨date.toDays * 86400 + hour * 3600 + minute * 60 + (if leap then 59 else second) - offset,
      if leap then nanos + 1000000000 else nanos⟩
    if Date.firstYear ≤ t.date.year ∧ t.date.year ≤ Date.lastYear then some t else none
  else none

-- Four digits; other years carry a sign.
def yearText (year : Int) : String :=
  if 0 ≤ year ∧ year ≤ 9999 then Text.padded 4 year.toNat
  else (if year < 0 then "-" else "+") ++ Text.padded 4 year.natAbs

-- No fraction, or three, six or nine digits of it, whichever is the shortest exact one.
def fractionText (nanos : Nat) : String :=
  if nanos = 0 then ""
  else if nanos % 1000000 = 0 then "." ++ Text.padded 3 (nanos / 1000000)
  else if nanos % 1000 = 0 then "." ++ Text.padded 6 (nanos / 1000)
  else "." ++ Text.padded 9 nanos

def renderWith (fraction : Bool) (zone : String) (t : Instant) : String :=
  let d := t.date
  let s := (t.seconds % 86400).toNat
  let leap := 1000000000 ≤ t.nanos
  let second := if leap then s % 60 + 1 else s % 60
  let nanos := if leap then t.nanos - 1000000000 else t.nanos
  yearText d.year ++ "-" ++ Text.padded 2 d.month ++ "-" ++ Text.padded 2 d.day ++ "T" ++ Text.padded 2 (s / 3600) ++
    ":" ++ Text.padded 2 (s / 60 % 60) ++ ":" ++ Text.padded 2 second ++
    (if fraction then fractionText nanos else "") ++ zone

def render (t : Instant) : String := renderWith true "Z" t

-- The same moment with a numeric zone.
def renderOffset (t : Instant) : String := renderWith true "+00:00" t

-- To the second, for the date of a run.
def renderSeconds (t : Instant) : String := renderWith false "Z" t

end Instant

end Harvester
