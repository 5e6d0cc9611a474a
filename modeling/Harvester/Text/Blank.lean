namespace Harvester.Text

-- Blank characters are those with the Unicode property White_Space: 25 code points.
def isBlank (c : Char) : Bool :=
  let n := c.toNat
  (9 ≤ n && n ≤ 13) || n == 0x20 || n == 0x85 || n == 0xA0 || n == 0x1680 || (0x2000 ≤ n && n ≤ 0x200A) ||
    n == 0x2028 || n == 0x2029 || n == 0x202F || n == 0x205F || n == 0x3000

def trimStart (cs : List Char) : List Char := cs.dropWhile isBlank

def trimEnd (cs : List Char) : List Char := (cs.reverse.dropWhile isBlank).reverse

-- Blanks at both ends are taken away; blanks inside stay.
def trim (cs : List Char) : List Char := trimEnd (trimStart cs)

def trimmed (s : String) : String := String.ofList (trim s.toList)

-- Every run of blanks becomes one space, also at the ends.
def collapse : List Char → List Char
  | [] => []
  | [c] => if isBlank c then [' '] else [c]
  | c :: d :: rest =>
    if isBlank c then
      if isBlank d then collapse (d :: rest) else ' ' :: collapse (d :: rest)
    else c :: collapse (d :: rest)

-- The words of a text: its maximal blank-free stretches, in order. `word` is the stretch being read, reversed.
def wordsFrom (word : List Char) : List Char → List (List Char)
  | [] => if word.isEmpty then [] else [word.reverse]
  | c :: rest =>
    if isBlank c then
      if word.isEmpty then wordsFrom [] rest else word.reverse :: wordsFrom [] rest
    else wordsFrom (c :: word) rest

def words (cs : List Char) : List (List Char) := wordsFrom [] cs

-- Nothing is left of a text that has only blanks.
def nonBlank? (s : Option String) : Option String :=
  match s with
  | none => none
  | some s => if (trimmed s).isEmpty then none else some (trimmed s)

def startsWith (pattern : List Char) (cs : List Char) : Bool := pattern.isPrefixOf cs

-- The rest behind `pattern`, when the text begins with it.
def dropPattern? : List Char → List Char → Option (List Char)
  | [], cs => some cs
  | _ :: _, [] => none
  | p :: ps, c :: cs => if p = c then dropPattern? ps cs else none

-- The part before the first occurrence of `pattern` and the part behind it.
def splitAtPattern? (pattern : List Char) : List Char → Option (List Char × List Char)
  | [] => if pattern.isEmpty then some ([], []) else none
  | c :: cs =>
    match dropPattern? pattern (c :: cs) with
    | some rest => some ([], rest)
    | none => (splitAtPattern? pattern cs).map fun (before, behind) => (c :: before, behind)

-- Every occurrence is replaced, from the left, without reading the replacement again. `skip` counts the characters
-- of a replaced occurrence that are still to be passed over.
def replaceFrom (pattern : List Char) (by_ : List Char) : Nat → List Char → List Char
  | _, [] => []
  | skip + 1, _ :: cs => replaceFrom pattern by_ skip cs
  | 0, c :: cs =>
    match dropPattern? pattern (c :: cs) with
    | some _ => by_ ++ replaceFrom pattern by_ (pattern.length - 1) cs
    | none => c :: replaceFrom pattern by_ 0 cs

def replaceAll (pattern by_ : List Char) (cs : List Char) : List Char :=
  if pattern.isEmpty then cs else replaceFrom pattern by_ 0 cs

def lowerAscii (c : Char) : Char :=
  if 'A' ≤ c ∧ c ≤ 'Z' then Char.ofNat (c.toNat + 32) else c

def isDigit (c : Char) : Bool := '0' ≤ c && c ≤ '9'

def digitValue (c : Char) : Nat := c.toNat - '0'.toNat

def hexValue? (c : Char) : Option Nat :=
  if '0' ≤ c ∧ c ≤ '9' then some (c.toNat - '0'.toNat)
  else if 'a' ≤ c ∧ c ≤ 'f' then some (c.toNat - 'a'.toNat + 10)
  else if 'A' ≤ c ∧ c ≤ 'F' then some (c.toNat - 'A'.toNat + 10)
  else none

def hexDigit (n : Nat) : Char :=
  if n < 10 then Char.ofNat ('0'.toNat + n) else Char.ofNat ('a'.toNat + (n - 10))

-- A digit string read in base ten; `none` when a character is no digit or there is none at all.
def decimal? (cs : List Char) : Option Nat :=
  if cs.isEmpty then none
  else cs.foldl (fun acc c => acc.bind fun n => if isDigit c then some (n * 10 + digitValue c) else none) (some 0)

def hexadecimal? (cs : List Char) : Option Nat :=
  if cs.isEmpty then none
  else cs.foldl (fun acc c => acc.bind fun n => (hexValue? c).map fun d => n * 16 + d) (some 0)

-- The character of a code point, when it is a Unicode scalar value.
def scalar? (n : Nat) : Option Char :=
  if n < 0xD800 ∨ (0xDFFF < n ∧ n < 0x110000) then some (Char.ofNat n) else none

-- An integer written with at least `width` digits.
def padded (width n : Nat) : String :=
  let digits := toString n
  String.ofList (List.replicate (width - digits.length) '0') ++ digits

end Harvester.Text
