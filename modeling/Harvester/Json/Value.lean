namespace Harvester

-- A number written with a fraction or an exponent, or the literal `-0`: its digits as they stand.
structure Numeral where
  negative : Bool
  whole : List Char
  fraction : List Char
  exponent : Option Int
deriving Repr, DecidableEq, Inhabited

-- A JSON document. Object members keep their order and their repetitions; who reads an object decides what a
-- repetition means. `unpaired` is a string with half of a surrogate pair: well formed as text, without a value.
inductive Json
  | null
  | bool (value : Bool)
  | int (value : Int)
  | decimal (value : Numeral)
  | str (value : String)
  | unpaired
  | arr (items : List Json)
  | obj (fields : List (String × Json))
deriving Repr, Inhabited

namespace Json

-- How deep arrays and objects are nested.
mutual
def depth : Json → Nat
  | arr items => depthItems items + 1
  | obj fields => depthFields fields + 1
  | _ => 0
def depthItems : List Json → Nat
  | [] => 0
  | item :: rest => max (depth item) (depthItems rest)
def depthFields : List (String × Json) → Nat
  | [] => 0
  | (_, value) :: rest => max (depth value) (depthFields rest)
end

-- Whether every part of a document has a value: no unpaired surrogate anywhere, every number in the range of floats.
mutual
def holds (number : Numeral → Bool) : Json → Bool
  | unpaired => false
  | decimal n => number n
  | arr items => holdsItems number items
  | obj fields => holdsFields number fields
  | _ => true
def holdsItems (number : Numeral → Bool) : List Json → Bool
  | [] => true
  | item :: rest => holds number item && holdsItems number rest
def holdsFields (number : Numeral → Bool) : List (String × Json) → Bool
  | [] => true
  | (_, value) :: rest => holds number value && holdsFields number rest
end

-- The value of a member; of a repeated one, the last.
def lastField? (key : String) : List (String × Json) → Option Json
  | [] => none
  | (k, v) :: rest =>
    match lastField? key rest with
    | some found => some found
    | none => if k = key then some v else none

end Json

def Int.minLong : Int := -9223372036854775808
def Int.maxLong : Int := 9223372036854775807
def Int.maxWord : Int := 18446744073709551615

-- Signed 64-bit range.
def isLong (n : Int) : Bool := Int.minLong ≤ n && n ≤ Int.maxLong
-- Unsigned 64-bit range.
def isWord (n : Int) : Bool := 0 ≤ n && n ≤ Int.maxWord

end Harvester
