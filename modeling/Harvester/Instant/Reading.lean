import Harvester.Instant
namespace Harvester.Instant

open Text

-- At least `least` and at most `most` digits, and what follows them.
def digitsFrom (value count : Nat) : Nat → List Char → Nat × Nat × List Char
  | 0, cs => (value, count, cs)
  | _ + 1, [] => (value, count, [])
  | most + 1, c :: cs =>
    if isDigit c then digitsFrom (value * 10 + digitValue c) (count + 1) most cs else (value, count, c :: cs)

def digits? (least most : Nat) (cs : List Char) : Option (Nat × List Char) :=
  let (value, count, rest) := digitsFrom 0 0 most cs
  if count < least then none else some (value, rest)

def literal? (c : Char) : List Char → Option (List Char)
  | [] => none
  | d :: rest => if d = c then some rest else none

-- The digits behind a point: nine count, further ones are passed over.
def fraction? (cs : List Char) : Option (Nat × List Char) :=
  match cs with
  | '.' :: rest =>
    let (value, count, behind) := digitsFrom 0 0 9 rest
    if count = 0 then none else some (value * Nat.pow 10 (9 - count), behind.dropWhile isDigit)
  | cs => some (0, cs)

-- What may stand between the hours and the minutes of a zone.
inductive ZoneStyle
  | colon      -- exactly one colon
  | loose      -- any colons and blanks, or nothing
deriving DecidableEq

-- A numeric zone in seconds east of UTC; `Z` where it is allowed.
def zone? (style : ZoneStyle) (zulu : Bool) (cs : List Char) : Option (Int × List Char) :=
  match cs with
  | [] => none
  | c :: rest =>
    if zulu ∧ (c = 'Z' ∨ c = 'z') then some (0, rest)
    else
      let sign : Option Int := if c = '+' then some 1 else if c = '-' ∨ c = '−' then some (-1) else none
      match sign, digits? 2 2 rest with
      | some sign, some (hours, behind) =>
        let minutes := match style with
          | .colon => literal? ':' behind
          | .loose => some (behind.dropWhile fun c => c == ':' || isBlank c)
        match minutes.bind (digits? 2 2) with
        | some (m, behind) => if m < 60 then some (sign * (hours * 3600 + m * 60), behind) else none
        | none => none
      | _, _ => none

-- RFC 3339: every part has its full width.
def ofRfc3339? (text : List Char) : Option Instant := do
  let (year, cs) ← digits? 4 4 text
  let cs ← literal? '-' cs
  let (month, cs) ← digits? 2 2 cs
  let cs ← literal? '-' cs
  let (day, cs) ← digits? 2 2 cs
  let cs ← match cs with
    | c :: rest => if c = 't' ∨ c = 'T' ∨ c = ' ' then some rest else none
    | [] => none
  let (hour, cs) ← digits? 2 2 cs
  let cs ← literal? ':' cs
  let (minute, cs) ← digits? 2 2 cs
  let cs ← literal? ':' cs
  let (second, cs) ← digits? 2 2 cs
  let (nanos, cs) ← fraction? cs
  let (offset, cs) ← zone? .colon true cs
  if cs.isEmpty then ofParts? ⟨year, month, day⟩ hour minute second nanos offset else none

-- A year: up to four digits, or a sign and any number of digits.
def year? (cs : List Char) : Option (Int × List Char) :=
  match trimStart cs with
  | '-' :: rest => (digits? 1 rest.length rest).map fun (n, behind) => (-(n : Int), behind)
  | '+' :: rest => (digits? 1 rest.length rest).map fun (n, behind) => ((n : Int), behind)
  | cs => (digits? 1 4 cs).map fun (n, behind) => ((n : Int), behind)

def twoDigits? (cs : List Char) : Option (Nat × List Char) := digits? 1 2 (trimStart cs)

def looseDate? (gaps : Bool) (cs : List Char) : Option (Date × List Char) := do
  let gap := fun cs => if gaps then trimStart cs else cs
  let (year, cs) ← year? cs
  let cs ← literal? '-' (gap cs)
  let (month, cs) ← twoDigits? cs
  let cs ← literal? '-' (gap cs)
  let (day, cs) ← twoDigits? cs
  some (⟨year, month, day⟩, cs)

def looseTime? (gaps : Bool) (cs : List Char) : Option ((Nat × Nat × Nat) × List Char) := do
  let gap := fun cs => if gaps then trimStart cs else cs
  let (hour, cs) ← twoDigits? cs
  let cs ← literal? ':' (gap cs)
  let (minute, cs) ← twoDigits? cs
  let cs ← literal? ':' (gap cs)
  let (second, cs) ← twoDigits? cs
  some ((hour, minute, second), cs)

-- The form of time stamps on the wire: RFC 3339, but years may be signed, parts may be narrow, blanks may stand between
-- parts, and the zone may be written `UTC` or without its colon.
def ofWire? (text : String) : Option Instant := do
  let (date, cs) ← looseDate? true text.toList
  let cs ← match cs with
    | c :: rest => if c = 't' ∨ c = 'T' ∨ c = ' ' then some rest else none
    | [] => none
  let ((hour, minute, second), cs) ← looseTime? true cs
  let (nanos, cs) ← fraction? cs
  let cs := trimStart cs
  let (offset, cs) ← match cs with
    | a :: b :: c :: rest =>
      if lowerAscii a = 'u' ∧ lowerAscii b = 't' ∧ lowerAscii c = 'c' then some (0, rest) else zone? .loose true cs
    | _ => zone? .loose true cs
  if (trimStart cs).isEmpty then ofParts? date hour minute second nanos offset else none

-- The form in contest tables: date, time and numeric zone, `2025-01-05 21:00:00+0900`.
def ofTable? (text : List Char) : Option Instant := do
  let (date, cs) ← looseDate? false text
  let ((hour, minute, second), cs) ← looseTime? false cs
  let (offset, cs) ← zone? .loose false (trimStart cs)
  if cs.isEmpty then ofParts? date hour minute second 0 offset else none

end Harvester.Instant
