import Harvester.Text.Utf8
namespace Harvester.Http

open Text

-- Query text: names and values as bytes, where letters, digits and `*-._` stand for themselves, a blank is `+`, and every
-- other byte is `%` with two hexadecimal digits.
def standsForItself (b : UInt8) : Bool :=
  let n := b.toNat
  (0x30 ≤ n && n ≤ 0x39) || (0x41 ≤ n && n ≤ 0x5A) || (0x61 ≤ n && n ≤ 0x7A) ||
    n == 0x2A || n == 0x2D || n == 0x2E || n == 0x5F

def upperHex (n : Nat) : Char := if n < 10 then Char.ofNat (0x30 + n) else Char.ofNat (0x37 + n)

def percentByte (b : UInt8) : List Char := ['%', upperHex (b.toNat / 16), upperHex (b.toNat % 16)]

def formByte (b : UInt8) : List Char :=
  if standsForItself b then [Char.ofNat b.toNat] else if b = 0x20 then ['+'] else percentByte b

def formText (s : String) : List Char := (utf8 s).flatMap formByte

def formPair (pair : String × String) : List Char := formText pair.1 ++ '=' :: formText pair.2

-- Pairs in their order, joined by `&`.
def formPairs : List (String × String) → List Char
  | [] => []
  | [pair] => formPair pair
  | pair :: next :: rest => formPair pair ++ '&' :: formPairs (next :: rest)

-- The bytes a piece of query text stands for; a `%` without two digits stands for itself.
def formBytes : List Char → List UInt8
  | [] => []
  | '+' :: rest => 0x20 :: formBytes rest
  | '%' :: high :: low :: rest =>
    match hexValue? high, hexValue? low with
    | some h, some l => UInt8.ofNat (h * 16 + l) :: formBytes rest
    | _, _ => 0x25 :: formBytes (high :: low :: rest)
  | c :: rest => charBytes c ++ formBytes rest

def formValue (cs : List Char) : String := String.ofList (decodeFrom none (formBytes cs))

-- The pieces between separators; there is always one more than there are separators.
def splitAt (separator : Char) : List Char → List (List Char)
  | [] => [[]]
  | c :: rest =>
    match splitAt separator rest with
    | piece :: pieces => if c = separator then [] :: piece :: pieces else (c :: piece) :: pieces
    | [] => [[c]]

-- A pair ends its name at the first `=`.
def readPair (cs : List Char) : String × String :=
  (formValue (cs.takeWhile (· != '=')), formValue ((cs.dropWhile (· != '=')).drop 1))

def readPairs (cs : List Char) : List (String × String) :=
  ((splitAt '&' cs).filter fun piece => !piece.isEmpty).map readPair

end Harvester.Http
