import Harvester.Json.Reader
namespace Harvester.Json

open Text

-- What a JSON text is, said without its reader: strings, numbers and documents as they are written, and what they mean.

def Spaces (cs : List Char) : Prop := ∀ c ∈ cs, isSpace c = true

-- A character as one or two 16-bit code units: beyond U+FFFF it is a pair of surrogates.
def codeUnits (c : Char) : List Nat :=
  if c.toNat < 0x10000 then [c.toNat]
  else [0xD800 + (c.toNat - 0x10000) / 0x400, 0xDC00 + (c.toNat - 0x10000) % 0x400]

def units (cs : List Char) : List Nat := cs.flatMap codeUnits

def shortEscapes : List (Char × Char) :=
  [('"', '"'), ('\\', '\\'), ('/', '/'), ('b', Char.ofNat 8), ('f', Char.ofNat 12), ('n', '\n'), ('r', '\r'), ('t', '\t')]

inductive Hexes : List Char → Nat → Prop
  | nil : Hexes [] 0
  | more (front : Hexes ds n) (digit : hexValue? c = some d) : Hexes (ds ++ [c]) (n * 16 + d)

-- One letter of a string, and the code units it stands for.
inductive Letter : List Char → List Nat → Prop
  | plain (noQuote : c ≠ '"') (noBackslash : c ≠ '\\') (visible : 0x20 ≤ c.toNat) : Letter [c] (codeUnits c)
  | short (known : (d, c) ∈ shortEscapes) : Letter ['\\', d] (codeUnits c)
  | code (hexes : Hexes ds n) (four : ds.length = 4) : Letter ('\\' :: 'u' :: ds) [n]

inductive Letters : List Char → List Nat → Prop
  | nil : Letters [] []
  | more (front : Letters cs us) (last : Letter ds vs) : Letters (cs ++ ds) (us ++ vs)

-- A string in its quotes. Its code units are those of a text, unless half of a pair stands alone.
inductive Literal : List Char → List Nat → Prop
  | quoted (letters : Letters cs us) : Literal ('"' :: (cs ++ ['"'])) us

-- The name of a member is a text.
inductive Name : List Char → String → Prop
  | named (before : Spaces bs) (literal : Literal cs us) (means : us = units key.toList) (after : Spaces as) :
      Name (bs ++ cs ++ as) key

def Digits (ds : List Char) : Prop := ds ≠ [] ∧ ∀ d ∈ ds, isDigit d = true

-- The digits before the point: no zero in front of others.
inductive Whole : List Char → Prop
  | zero : Whole ['0']
  | more (digit : isDigit d = true) (nonzero : d ≠ '0') (digits : ∀ c ∈ ds, isDigit c = true) : Whole (d :: ds)

-- The point and the digits behind it, or nothing.
inductive Fraction : List Char → List Char → Prop
  | none : Fraction [] []
  | digits (digits : Digits fs) : Fraction ('.' :: fs) fs

inductive ExponentSign : List Char → Bool → Prop
  | none : ExponentSign [] false
  | plus : ExponentSign ['+'] false
  | minus : ExponentSign ['-'] true

inductive Exponent : List Char → Option Int → Prop
  | none : Exponent [] none
  | digits (mark : e = 'e' ∨ e = 'E') (sign : ExponentSign ss negative) (digits : Digits es) :
      Exponent (e :: (ss ++ es)) (some (if negative then -(natOf es : Int) else natOf es))

def minusText (negative : Bool) : List Char := if negative then ['-'] else []

-- Sign, digits and fraction of a number.
inductive Mantissa : List Char → Bool → List Char → List Char → Prop
  | digits (negative : Bool) (whole : Whole ds) (fraction : Fraction part fs) :
      Mantissa (minusText negative ++ ds ++ part) negative ds fs

-- Without fraction and exponent a number is an integer, but `-0` is not.
inductive Number : List Char → Json → Prop
  | positive (whole : Whole ds) : Number ds (.int (natOf ds))
  | negative (whole : Whole ds) (nonzero : ds ≠ ['0']) : Number ('-' :: ds) (.int (-(natOf ds : Int)))
  | negativeZero : Number ['-', '0'] (.decimal ⟨true, ['0'], [], none⟩)
  | decimal (mantissa : Mantissa cs negative ds fs) (exponent : Exponent ending power) (either : fs ≠ [] ∨ power ≠ none) :
      Number (cs ++ ending) (.decimal ⟨negative, ds, fs, power⟩)

def words : List (List Char × Json) :=
  [(['n', 'u', 'l', 'l'], .null), (['t', 'r', 'u', 'e'], .bool true), (['f', 'a', 'l', 's', 'e'], .bool false)]

-- The parts of a document: an element is a value with blanks around it.
inductive Phrase
  | value (v : Json)
  | element (v : Json)
  | items (vs : List Json)
  | member (field : String × Json)
  | members (fields : List (String × Json))

inductive Spells : List Char → Phrase → Prop
  | word (known : (cs, v) ∈ words) : Spells cs (.value v)
  | number (number : Number cs v) : Spells cs (.value v)
  | text (literal : Literal cs us) (s : String) (means : us = units s.toList) : Spells cs (.value (.str s))
  | unpaired (literal : Literal cs us) (stray : ∀ s : String, us ≠ units s.toList) : Spells cs (.value .unpaired)
  | emptyArr (blanks : Spaces bs) : Spells ('[' :: (bs ++ [']'])) (.value (.arr []))
  | arr (items : Spells cs (.items vs)) : Spells ('[' :: (cs ++ [']'])) (.value (.arr vs))
  | emptyObj (blanks : Spaces bs) : Spells ('{' :: (bs ++ ['}'])) (.value (.obj []))
  | obj (members : Spells cs (.members fields)) : Spells ('{' :: (cs ++ ['}'])) (.value (.obj fields))
  | element (before : Spaces bs) (value : Spells cs (.value v)) (after : Spaces as) : Spells (bs ++ cs ++ as) (.element v)
  | firstItem (first : Spells cs (.element v)) : Spells cs (.items [v])
  | nextItem (items : Spells cs (.items vs)) (next : Spells ds (.element v)) : Spells (cs ++ ',' :: ds) (.items (vs ++ [v]))
  | member (name : Name cs key) (value : Spells ds (.element v)) : Spells (cs ++ ':' :: ds) (.member (key, v))
  | firstMember (first : Spells cs (.member field)) : Spells cs (.members [field])
  | nextMember (members : Spells cs (.members fields)) (next : Spells ds (.member field)) :
      Spells (cs ++ ',' :: ds) (.members (fields ++ [field]))

-- A text that is one document, with blanks around it.
def Document (text : String) (doc : Json) : Prop := Spells text.toList (.element doc)

end Harvester.Json
