import Harvester.Text.EntityTable
namespace Harvester.Html

open Text

def isLetter (c : Char) : Bool := ('a' ≤ c && c ≤ 'z') || ('A' ≤ c && c ≤ 'Z')

def isAlphanumeric (c : Char) : Bool := isLetter c || isDigit c

-- Blanks between the parts of a tag.
def isSpace (c : Char) : Bool := c == ' ' || c == '\t' || c == '\n' || c.toNat == 12 || c == '\r'

def replacementChar : Char := Char.ofNat 0xFFFD

-- Numbers from 128 to 159 are read as the characters of the Windows code page 1252; the holes of that page stay.
def windowsCodes : List Nat :=
  [0x20AC, 0x81, 0x201A, 0x0192, 0x201E, 0x2026, 0x2020, 0x2021, 0x02C6, 0x2030, 0x0160, 0x2039, 0x0152, 0x8D, 0x017D,
    0x8F, 0x90, 0x2018, 0x2019, 0x201C, 0x201D, 0x2022, 0x2013, 0x2014, 0x02DC, 0x2122, 0x0161, 0x203A, 0x0153, 0x9D,
    0x017E, 0x0178]

def numbered (n : Nat) : Char :=
  if 0x80 ≤ n ∧ n ≤ 0x9F then Char.ofNat (windowsCodes.getD (n - 0x80) n)
  else if n = 0 then replacementChar
  else (scalar? n).getD replacementChar

-- A number reference behind `&#`: the character and the rest. The semicolon may be missing.
def numberReference? (cs : List Char) : Option (Char × List Char) :=
  let read := fun (digits rest : List Char) (n : Option Nat) =>
    if digits.isEmpty then none
    else n.map fun n =>
      (numbered n, match rest with
        | ';' :: rest => rest
        | rest => rest)
  match cs with
  | 'x' :: rest | 'X' :: rest =>
    let digits := rest.takeWhile fun c => (hexValue? c).isSome
    read digits (rest.drop digits.length) (hexadecimal? digits)
  | cs =>
    let digits := cs.takeWhile isDigit
    read digits (cs.drop digits.length) (decimal? digits)

-- The longest name that `word`, cut to `size` characters, begins with; `rest` is what stands behind the word. Some
-- names are read without their semicolon; in an attribute not before a letter, a digit or an equals sign.
def longestName? (inAttribute : Bool) (word rest : List Char) : Nat → Option (List Char × List Char)
  | 0 => none
  | size + 1 =>
    let name := word.take (size + 1)
    let behind := word.drop (size + 1) ++ rest
    match named? name, behind with
    | some entry, ';' :: behind => some (entry.codes.map Char.ofNat, behind)
    | some entry, behind =>
      if !entry.bare then longestName? inAttribute word rest size
      else if inAttribute && behind.head?.any fun c => c == '=' || isAlphanumeric c then none
      else some (entry.codes.map Char.ofNat, behind)
    | none, _ => longestName? inAttribute word rest size

-- What a reference behind `&` stands for, and the rest.
def reference? (inAttribute : Bool) (cs : List Char) : Option (List Char × List Char) :=
  match cs with
  | '#' :: rest => (numberReference? rest).map fun (c, rest) => ([c], rest)
  | cs =>
    let word := cs.takeWhile isAlphanumeric
    longestName? inAttribute word (cs.drop word.length) word.length

def decodeFrom (inAttribute : Bool) : Nat → List Char → List Char
  | 0, _ => []
  | _ + 1, [] => []
  | fuel + 1, '&' :: rest =>
    match reference? inAttribute rest with
    | some (cs, rest) => cs ++ decodeFrom inAttribute fuel rest
    | none => '&' :: decodeFrom inAttribute fuel rest
  | fuel + 1, c :: rest => c :: decodeFrom inAttribute fuel rest

-- Text with its character references resolved. An ampersand that begins none stays.
def decode (inAttribute : Bool) (cs : List Char) : List Char := decodeFrom inAttribute cs.length cs

end Harvester.Html
