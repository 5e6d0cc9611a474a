import Harvester.Keyed
import Harvester.Json.Field
import Harvester.Json.Reader
import Harvester.Json.Writer
import Harvester.Text.Blank
namespace Harvester

-- A signed 64-bit integer.
structure Long where
  value : Int
  held : Int.minLong ≤ value ∧ value ≤ Int.maxLong
deriving Repr, DecidableEq

namespace Long

def ofInt? (n : Int) : Option Long :=
  if h : Int.minLong ≤ n ∧ n ≤ Int.maxLong then some ⟨n, h⟩ else none

def zero : Long := ⟨0, by decide⟩

def one : Long := ⟨1, by decide⟩

instance : Inhabited Long := ⟨zero⟩

-- One more, but never past the largest.
def next (n : Long) : Long :=
  if h : n.value + 1 ≤ Int.maxLong then ⟨n.value + 1, ⟨Int.le_trans n.held.1 (by omega), h⟩⟩ else n

def text (n : Long) : String := toString n.value

-- A sign or none, then digits only.
def digits? (negative : Bool) (digits : List Char) : Option Long :=
  (Text.decimal? digits).bind fun n => ofInt? (if negative then -(n : Int) else n)

def ofChars? : List Char → Option Long
  | '+' :: digits => digits? false digits
  | '-' :: digits => digits? true digits
  | digits => digits? false digits

def ofText? (s : String) : Option Long := ofChars? (Text.trim s.toList)

end Long

-- A parameter keeps its kind: a text of digits is not a number.
inductive Param
  | long (value : Long)
  | text (value : String)
deriving Repr, DecidableEq, Inhabited

namespace Param

def toJson : Param → Json
  | .long n => .int n.value
  | .text s => .str s

def ofJson? : Json → Option Param
  | .int n => (Long.ofInt? n).map .long
  | .str s => some (.text s)
  | _ => none

-- Read as a number; a text of digits counts, blanks around it do not.
def long? : Param → Option Long
  | .long n => some n
  | .text s => Long.ofText? s

def toText : Param → String
  | .long n => n.text
  | .text s => s

def flag? : Param → Option Bool
  | .long n => some (n.value != 0)
  | .text s =>
    let word := String.ofList ((Text.trim s.toList).map Text.lowerAscii)
    if word = "true" ∨ word = "1" ∨ word = "yes" then some true
    else if word = "false" ∨ word = "0" ∨ word = "no" then some false
    else none

end Param

-- The parameters of one execution, by name.
abbrev Parameters := Keyed Param

namespace Parameters

def getLong? (p : Parameters) (key : String) : Option Long := (p.get? key).bind Param.long?

def getText? (p : Parameters) (key : String) : Option String := (p.get? key).map Param.toText

def toJson (p : Parameters) : Json := .obj (p.entries.map fun e => (e.1, e.2.toJson))

-- One object whose members are all texts or longs; a repeated name keeps its last value.
def ofJson? : Json → Option Parameters
  | .obj fields =>
    (fields.mapM fun (field : String × Json) => (Param.ofJson? field.2).map fun v => (field.1, v)).map Keyed.ofList
  | _ => none

def encode (p : Parameters) : String := Json.toText (toJson p)

def decode? (text : String) : Option Parameters := (Json.parse? text).bind ofJson?

end Parameters

end Harvester
