import Harvester.Instant.Reading
namespace Harvester.Instant

open Text

-- Characters that may stand in a comment by themselves.
def isCommentText (c : Char) : Bool :=
  let n := c.toNat
  (1 ≤ n && n ≤ 8) || n == 11 || n == 12 || (14 ≤ n && n ≤ 31) || n == 127 || (33 ≤ n && n ≤ 39) ||
    (42 ≤ n && n ≤ 91) || (93 ≤ n && n ≤ 126)

-- The rest behind a comment that is open `depth` times.
def commentEnd? : Nat → List Char → Option (List Char)
  | _, [] => none
  | depth, ')' :: cs => if depth ≤ 1 then some cs else commentEnd? (depth - 1) cs
  | depth, '(' :: cs => commentEnd? (depth + 1) cs
  | depth, '\\' :: c :: cs =>
    let n := c.toNat
    if 1 ≤ n ∧ n ≤ 127 ∧ n ≠ 10 ∧ n ≠ 13 then commentEnd? depth cs else none
  | depth, '\r' :: '\n' :: c :: cs => if c = ' ' ∨ c = '\t' then commentEnd? depth cs else none
  | depth, c :: cs => if c = ' ' ∨ c = '\t' ∨ isCommentText c then commentEnd? depth cs else none

-- Blanks, folded lines and comments, as many as there are.
def skipFolds (comments : Bool) : Nat → List Char → List Char
  | 0, cs => cs
  | fuel + 1, cs =>
    match cs with
    | ' ' :: rest => skipFolds comments fuel rest
    | '\t' :: rest => skipFolds comments fuel rest
    | '\r' :: '\n' :: ' ' :: rest => skipFolds comments fuel rest
    | '\r' :: '\n' :: '\t' :: rest => skipFolds comments fuel rest
    | '(' :: rest =>
      if comments then
        match commentEnd? 1 rest with
        | some behind => skipFolds comments fuel behind
        | none => cs
      else cs
    | cs => cs

def folds (cs : List Char) : List Char := skipFolds true cs.length cs

-- At least one blank, folded line or comment.
def foldsSome? (cs : List Char) : Option (List Char) :=
  let rest := folds cs
  if rest.length < cs.length then some rest else none

def blanksSome? (cs : List Char) : Option (List Char) :=
  let rest := skipFolds false cs.length cs
  if rest.length < cs.length then some rest else none

-- The first word of the table that the text begins with, letters of either case.
def wordOf? (table : List (String × α)) (cs : List Char) : Option (α × List Char) :=
  match table with
  | [] => none
  | (word, value) :: rest =>
    match dropPattern? (word.toList.map lowerAscii) ((cs.take word.length).map lowerAscii) with
    | some [] => some (value, cs.drop word.length)
    | _ => wordOf? rest cs

def weekdays : List (String × Unit) :=
  ["Mon", "Tue", "Wed", "Thu", "Fri", "Sat", "Sun"].map fun d => (d, ())

def months : List (String × Nat) :=
  ["Jan", "Feb", "Mar", "Apr", "May", "Jun", "Jul", "Aug", "Sep", "Oct", "Nov", "Dec"].zip (List.range' 1 12)

-- Hours east of UTC of the named zones.
def zones : List (String × Int) :=
  [("UT", 0), ("GMT", 0), ("EST", -5), ("EDT", -4), ("CST", -6), ("CDT", -5), ("MST", -7), ("MDT", -6), ("PST", -8),
    ("PDT", -7)]

-- A single letter other than J is a zone without meaning, read as UTC.
def militaryZone? : List Char → Option (Int × List Char)
  | c :: rest =>
    let l := lowerAscii c
    if 'a' ≤ l ∧ l ≤ 'z' ∧ l ≠ 'j' then some (0, rest) else none
  | [] => none

-- A zone of sign and four digits in seconds. The minutes take the sign of the hours, so `-00` leaves them positive.
def signedZone? : List Char → Option (Int × List Char)
  | c :: rest =>
    if c = '+' ∨ c = '-' then
      match digits? 2 2 rest with
      | some (h, behind) =>
        match digits? 2 2 behind with
        | some (m, behind) =>
          if h ≤ 25 ∧ m ≤ 59 then
            let hours : Int := if c = '-' then -(h : Int) else h
            some (hours * 3600 + (if hours < 0 then -(m : Int) else m) * 60, behind)
          else none
        | none => none
      | none => none
    else none
  | [] => none

def mailZone? (cs : List Char) : Option (Int × List Char) :=
  match wordOf? zones cs with
  | some (hours, rest) => some (hours * 3600, rest)
  | none =>
    match militaryZone? cs with
    | some found => some found
    | none => signedZone? cs

-- Four digits from 1900 on, or two digits of which those below 50 belong to this century.
def mailYear? (cs : List Char) : Option (Int × List Char) :=
  match digits? 4 4 cs with
  | some (year, rest) => if 1900 ≤ year then (blanksSome? rest).map fun rest => ((year : Int), rest) else none
  | none =>
    match digits? 2 2 cs with
    | some (year, rest) =>
      (foldsSome? rest).map fun rest => ((if year < 50 then (year : Int) + 2000 else (year : Int) + 1900), rest)
    | none => none

-- The seconds, if they are given, and the gap before the zone.
def mailSeconds? (cs : List Char) : Option (Nat × List Char) :=
  match folds cs with
  | ':' :: rest => (digits? 2 2 (folds rest)).bind fun (s, rest) => (foldsSome? rest).map fun rest => (s, rest)
  | _ => (foldsSome? cs).map fun rest => (0, rest)

-- A leap second is only real at the end of a month in UTC; it is taken as the second before it.
def mailMoment? (date : Date) (hour minute second : Nat) (offset : Int) : Option Instant :=
  if date.IsDate ∧ hour < 24 ∧ minute < 60 ∧ second ≤ 60 then
    let leap := second = 60
    let t : Instant :=
      ⟨date.toDays * 86400 + hour * 3600 + minute * 60 + (if leap then 59 else second) - offset, 0⟩
    let d := t.date
    if leap ∧ ¬ (t.seconds % 86400 = 86399 ∧ d.day = Date.monthLength d.year d.month) then none else some t
  else none

-- RFC 2822, obsolete forms included.
def ofMail? (text : List Char) : Option Instant := do
  let cs := folds text
  let cs ← match wordOf? weekdays cs with
    | some (_, rest) => (literal? ',' rest).map folds
    | none => some cs
  let (day, cs) ← digits? 1 2 cs
  let cs ← foldsSome? cs
  let (month, cs) ← wordOf? months cs
  let cs ← foldsSome? cs
  let (year, cs) ← mailYear? cs
  let (hour, cs) ← digits? 2 2 cs
  let cs ← literal? ':' (folds cs)
  let (minute, cs) ← digits? 2 2 (folds cs)
  let (second, cs) ← mailSeconds? cs
  let (offset, cs) ← mailZone? cs
  if (folds cs).isEmpty then mailMoment? ⟨year, month, day⟩ hour minute second offset else none

end Harvester.Instant
