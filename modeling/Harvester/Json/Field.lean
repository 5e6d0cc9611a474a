import Harvester.Json.Value
namespace Harvester

-- The float a decimal is read as. The first digits that fit 64 bits make the significand, which is scaled by one power
-- of ten; `none` is a number beyond the range.
structure Significand where
  digits : Nat
  scale : Int
  full : Bool

def Significand.take (s : Significand) (fraction : Bool) (c : Char) : Significand :=
  let next := s.digits * 10 + (c.toNat - '0'.toNat)
  if s.full ∨ next > 18446744073709551615 then
    { s with full := true, scale := if fraction then s.scale else s.scale + 1 }
  else { s with digits := next, scale := if fraction then s.scale - 1 else s.scale }

def tenTo (n : Nat) : Float := Float.ofScientific 1 false n

def scaleDown : Nat → Float → Nat → Float
  | 0, f, _ => f
  | rounds + 1, f, n => if n ≤ 308 then f / tenTo n else if f == 0.0 then f else scaleDown rounds (f / tenTo 308) (n - 308)

def scaled? (significand : Nat) (scale : Int) : Option Float :=
  let f := (UInt64.ofNat significand).toFloat
  if scale ≥ 0 then
    if scale > 308 then (if significand = 0 then some f else none)
    else
      let f := f * tenTo scale.toNat
      if f.isInf then none else some f
  else some (scaleDown 8 f (-scale).toNat)

def Numeral.float? (n : Numeral) : Option Float :=
  let whole := n.whole.foldl (Significand.take · false) ⟨0, 0, false⟩
  let s := n.fraction.foldl (Significand.take · true) whole
  let f := if s.digits = 0 then some 0.0 else scaled? s.digits (s.scale + n.exponent.getD 0)
  f.map fun f => if n.negative then -f else f

def intDigits (n : Nat) : List Char := (toString n).toList

def intFloat? (n : Int) : Option Float := Numeral.float? ⟨n < 0, intDigits n.natAbs, [], none⟩

namespace Json

-- One declared member of a record: its name, and whether a record written as an array may stop before it.
structure Slot where
  name : String
  omissible : Bool

def slot (name : String) : Slot := ⟨name, false⟩

def omissible (name : String) : Slot := ⟨name, true⟩

-- Members by position.
def positional? : List Slot → List Json → Option (List (String × Json))
  | [], [] => some []
  | [], _ :: _ => none
  | s :: slots, [] => if s.omissible then positional? slots [] else none
  | s :: slots, v :: rest => (positional? slots rest).map ((s.name, v) :: ·)

def find? (key : String) : List (String × Json) → Option Json
  | [] => none
  | (k, v) :: rest => if k = key then some v else find? key rest

def repeats (names : List String) : List (String × Json) → Bool
  | [] => false
  | (k, _) :: rest => (names.contains k && rest.any fun field => field.1 == k) || repeats names rest

-- A record as the look-up of its declared members. A declared member given twice is refused, other members are
-- passed over; an array gives the members by position.
def members? (slots : List Slot) : Json → Option (String → Option Json)
  | obj fields => if repeats (slots.map (·.name)) fields then none else some fun key => find? key fields
  | arr items => (positional? slots items).map fun fields key => find? key fields
  | _ => none

def string? : Json → Option String
  | str s => some s
  | _ => none

def flag? : Json → Option Bool
  | bool b => some b
  | _ => none

def long? : Json → Option Int
  | int n => if isLong n then some n else none
  | _ => none

def word? : Json → Option Int
  | int n => if isWord n then some n else none
  | _ => none

-- Unsigned 32-bit range.
def half? : Json → Option Nat
  | int n => if 0 ≤ n ∧ n ≤ 4294967295 then some n.toNat else none
  | _ => none

def float? : Json → Option Float
  | int n => intFloat? n
  | decimal n => n.float?
  | _ => none

def listOf? (read : Json → Option α) : Json → Option (List α)
  | arr items => items.mapM read
  | _ => none

def required (read : Json → Option α) : Option Json → Option α
  | some v => read v
  | none => none

-- An absent or null member is none.
def optional (read : Json → Option α) : Option Json → Option (Option α)
  | none => some none
  | some null => some none
  | some v => (read v).map some

def defaulted (default : α) (read : Json → Option α) : Option Json → Option α
  | none => some default
  | some v => read v

-- A constant of an enumeration: its name, or an object from that name to null.
def constant? (read : String → Option α) : Json → Option α
  | str s => read s
  | obj [(key, null)] => read key
  | _ => none

end Json

end Harvester
