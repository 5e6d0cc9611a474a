import Harvester.Instant.Calendar
import Harvester.Toml.Lexeme
namespace Harvester.Toml

open Text

-- Digits with single underscores between them, which do not count.
def separated? (isOne : Char → Bool) : List Char → Option (List Char)
  | [] => none
  | [c] => if isOne c then some [c] else none
  | c :: '_' :: rest => if isOne c then (separated? isOne rest).map (c :: ·) else none
  | c :: d :: rest => if isOne c then (separated? isOne (d :: rest)).map (c :: ·) else none

def valueIn (base : Nat) (digits : List Char) : Nat :=
  digits.foldl (fun n c => n * base + (hexValue? c).getD 0) 0

-- Whole numbers must fit 64 bits, with a sign or without.
def int? (n : Int) : Option Json := if Int.minLong ≤ n ∧ n ≤ Int.maxWord then some (.int n) else none

def inBase? (base : Nat) (isOne : Char → Bool) (digits : List Char) : Option Json :=
  (separated? isOne digits).bind fun ds => int? (valueIn base ds)

def noLeadingZero : List Char → Bool
  | '0' :: _ :: _ => false
  | _ => true

def whole? (digits : List Char) : Option (List Char) :=
  (separated? isDigit digits).bind fun ds => if noLeadingZero ds then some ds else none

def exponentInt? : List Char → Option Int
  | '+' :: ds => (separated? isDigit ds).map fun ds => (valueIn 10 ds : Int)
  | '-' :: ds => (separated? isDigit ds).map fun ds => -(valueIn 10 ds : Int)
  | ds => (separated? isDigit ds).map fun ds => (valueIn 10 ds : Int)

def isMark (c : Char) : Bool := c == 'e' || c == 'E'

-- A fraction, an exponent, or both.
def float? (negative : Bool) (cs : List Char) : Option Json := do
  let mantissa := cs.takeWhile fun c => !isMark c
  let whole ← whole? (mantissa.takeWhile (· != '.'))
  let fraction ← match mantissa.dropWhile (· != '.') with
    | [] => some []
    | _ :: ds => separated? isDigit ds
  let exponent ← match cs.dropWhile fun c => !isMark c with
    | [] => some none
    | _ :: ds => (exponentInt? ds).map some
  some (.decimal ⟨negative, whole, fraction, exponent⟩)

-- Numbers that are none keep their spelling.
def unsigned? (negative : Bool) (cs : List Char) : Option Json :=
  if cs = "inf".toList ∨ cs = "nan".toList then some (.decimal ⟨negative, cs, [], none⟩)
  else match whole? cs with
    | some digits => int? (if negative then -(valueIn 10 digits : Int) else valueIn 10 digits)
    | none => if cs.any fun c => c == '.' || isMark c then float? negative cs else none

def number? : List Char → Option Json
  | '+' :: cs => unsigned? false cs
  | '-' :: cs => unsigned? true cs
  | '0' :: 'x' :: cs => inBase? 16 (fun c => (hexValue? c).isSome) cs
  | '0' :: 'o' :: cs => inBase? 8 (fun c => '0' ≤ c && c ≤ '7') cs
  | '0' :: 'b' :: cs => inBase? 2 (fun c => c == '0' || c == '1') cs
  | cs => unsigned? false cs

def twoDigits? (cs : List Char) (limit : Nat) : Option Nat :=
  if cs.length = 2 then (decimal? cs).bind fun n => if n ≤ limit then some n else none else none

def isDate (cs : List Char) : Bool :=
  match decimal? (cs.take 4), decimal? ((cs.drop 5).take 2), decimal? (cs.drop 8) with
  | some year, some month, some day =>
    cs.length == 10 && cs[4]? == some '-' && cs[7]? == some '-' && decide (Date.mk year month day).IsDate
  | _, _, _ => false

-- The fraction of a second is shown with nine digits at most and without zeros at its end.
def fractionText (digits : List Char) : List Char :=
  let kept := ((digits.take 9).reverse.dropWhile (· == '0')).reverse
  if kept.isEmpty then [] else '.' :: kept

-- Hours and minutes, perhaps seconds, perhaps a fraction of them; what follows is handed back.
def time? (cs : List Char) : Option (List Char × List Char) := do
  let _ ← twoDigits? (cs.take 2) 23
  let _ ← twoDigits? ((cs.drop 3).take 2) 59
  if cs[2]? ≠ some ':' then none
  else match cs.drop 5 with
    | ':' :: rest => do
      let _ ← twoDigits? (rest.take 2) 60
      match rest.drop 2 with
      | '.' :: more =>
        let digits := more.takeWhile isDigit
        if digits.isEmpty then none else some (cs.take 8 ++ fractionText digits, more.dropWhile isDigit)
      | more => some (cs.take 8, more)
    | rest => some (cs.take 5, rest)

def zone? : List Char → Option (List Char)
  | [] => some []
  | ['Z'] | ['z'] => some ['Z']
  | sign :: cs =>
    if (sign = '+' ∨ sign = '-') ∧ cs.length = 5 ∧ cs[2]? = some ':' ∧ (twoDigits? (cs.take 2) 24).isSome ∧
        (twoDigits? (cs.drop 3) 59).isSome then some (sign :: cs)
    else none

-- A date, a time, or both with or without a zone, in its normal spelling.
def dateTimeText? (cs : List Char) : Option (List Char) :=
  if isDate (cs.take 10) then
    match cs.drop 10 with
    | [] => some cs
    | c :: rest =>
      if c = 'T' ∨ c = 't' ∨ c = ' ' then
        (time? rest).bind fun (time, zone) => (zone? zone).map fun zone => cs.take 10 ++ 'T' :: (time ++ zone)
      else none
  else match time? cs with
    | some (time, []) => some time
    | _ => none

-- A moment stands in a document as a record of this one member.
def dateTimeKey : String := "$__toml_private_datetime"

def word? (cs : List Char) : Option Json :=
  if cs = "true".toList then some (.bool true)
  else if cs = "false".toList then some (.bool false)
  else match dateTimeText? cs with
    | some text => some (.obj [(dateTimeKey, .str (String.ofList text))])
    | none => number? cs

def endsWord (c : Char) : Bool := isSpace c || ",]\x7d#=\n\r".toList.contains c

-- One blank may stand between a date and a time.
def wordLength (cs : List Char) : Nat :=
  let first := (cs.takeWhile fun c => !endsWord c).length
  match cs.drop first with
  | ' ' :: rest =>
    let time := rest.takeWhile fun c => !endsWord c
    if isDate (cs.take first) ∧ (time.head?.map isDigit).getD false then first + 1 + time.length else first
  | _ => first

def scalar? (cs : List Char) : Option (Json × List Char) :=
  match text? cs with
  | some (text, rest) => some (.str text, rest)
  | none => (word? (cs.take (wordLength cs))).map fun v => (v, cs.drop (wordLength cs))

end Harvester.Toml
