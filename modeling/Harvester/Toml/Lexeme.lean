import Harvester.Json.Value
import Harvester.Text.Blank
namespace Harvester.Toml

open Text

-- Every reader takes the characters from where it stands and hands back the rest behind what it read.

def isSpace (c : Char) : Bool := c == ' ' || c == '\t'

def skipSpace (cs : List Char) : List Char := cs.dropWhile isSpace

-- Controls other than the tab may stand nowhere.
def isForbidden (c : Char) : Bool := (c.toNat < 0x20 && c != '\t') || c.toNat == 0x7F

def newline? : List Char → Option (List Char)
  | '\n' :: rest => some rest
  | '\r' :: '\n' :: rest => some rest
  | _ => none

-- A comment reaches to the end of its line, which stays.
def afterComment? : List Char → Option (List Char)
  | [] => some []
  | '\n' :: rest => some ('\n' :: rest)
  | '\r' :: '\n' :: rest => some ('\r' :: '\n' :: rest)
  | c :: rest => if isForbidden c then none else afterComment? rest

-- Blanks and a comment, then the end of the line or of the text.
def lineEnd? (cs : List Char) : Option (List Char) :=
  let after := match skipSpace cs with
    | '#' :: rest => afterComment? rest
    | rest => some rest
  after.bind fun rest => if rest.isEmpty then some [] else newline? rest

-- Blanks, line ends and comments between the elements of an array or an inline table.
def skipLoose (comment : Bool) : List Char → Option (List Char)
  | [] => some []
  | '\n' :: rest => skipLoose false rest
  | '\r' :: '\n' :: rest => skipLoose false rest
  | c :: rest =>
    if comment then (if isForbidden c then none else skipLoose true rest)
    else if isSpace c then skipLoose false rest
    else if c = '#' then skipLoose true rest
    else some (c :: rest)

def simpleEscape? : Char → Option Char
  | 'b' => some (Char.ofNat 8)
  | 't' => some '\t'
  | 'n' => some '\n'
  | 'f' => some (Char.ofNat 12)
  | 'r' => some '\r'
  | 'e' => some (Char.ofNat 27)
  | '"' => some '"'
  | '\\' => some '\\'
  | _ => none

def charOfHex? (digits : List Char) : Option Char := (hexadecimal? digits).bind scalar?

-- One escape behind its backslash, as a character and how many characters spell it.
def escape? : List Char → Option (Char × Nat)
  | 'x' :: rest => if rest.length < 2 then none else (charOfHex? (rest.take 2)).map fun c => (c, 3)
  | 'u' :: rest => if rest.length < 4 then none else (charOfHex? (rest.take 4)).map fun c => (c, 5)
  | 'U' :: rest => if rest.length < 8 then none else (charOfHex? (rest.take 8)).map fun c => (c, 9)
  | c :: _ => (simpleEscape? c).map fun c => (c, 1)
  | [] => none

-- Up to the closing quote. `skipped` characters belong to an escape that is already read.
def basic? (text : List Char) (skipped : Nat) : List Char → Option (String × List Char)
  | [] => none
  | c :: rest =>
    match skipped with
    | n + 1 => basic? text n rest
    | 0 =>
      if c = '"' then some (String.ofList text.reverse, rest)
      else if c = '\\' then
        match escape? rest with
        | some (escaped, length) => basic? (escaped :: text) length rest
        | none => none
      else if isForbidden c then none
      else basic? (c :: text) 0 rest

def literal? (text : List Char) : List Char → Option (String × List Char)
  | [] => none
  | c :: rest =>
    if c = '\'' then some (String.ofList text.reverse, rest)
    else if isForbidden c then none
    else literal? (c :: text) rest

-- Behind three closing quotes up to two more belong to the text.
def closeLong (quote : Char) (text : List Char) (rest : List Char) : String × List Char :=
  let extra := (rest.take 2).takeWhile (· == quote)
  (String.ofList (text.reverse ++ extra), rest.drop extra.length)

def beginsWithThree (quote : Char) (cs : List Char) : Bool := startsWith [quote, quote, quote] cs

-- A text over several lines. A backslash at a line's end takes away what is blank behind it, ends of lines included;
-- `folding` is true while that goes on.
def longBasic? (text : List Char) (skipped : Nat) (folding : Bool) : List Char → Option (String × List Char)
  | [] => none
  | c :: rest =>
    match skipped with
    | n + 1 => longBasic? text n folding rest
    | 0 =>
      if folding ∧ (isSpace c ∨ c = '\n' ∨ (c = '\r' ∧ rest.head? = some '\n')) then longBasic? text 0 true rest
      else if c = '"' ∧ beginsWithThree '"' (c :: rest) then some (closeLong '"' text (rest.drop 2))
      else if c = '\\' then
        if (newline? (skipSpace rest)).isSome then longBasic? text 0 true rest
        else match escape? rest with
          | some (escaped, length) => longBasic? (escaped :: text) length false rest
          | none => none
      else if c = '\n' ∨ (c = '\r' ∧ rest.head? = some '\n') then longBasic? (c :: text) 0 false rest
      else if isForbidden c then none
      else longBasic? (c :: text) 0 false rest

def longLiteral? (text : List Char) : List Char → Option (String × List Char)
  | [] => none
  | c :: rest =>
    if c = '\'' ∧ beginsWithThree '\'' (c :: rest) then some (closeLong '\'' text (rest.drop 2))
    else if c = '\n' ∨ (c = '\r' ∧ rest.head? = some '\n') then longLiteral? (c :: text) rest
    else if isForbidden c then none
    else longLiteral? (c :: text) rest

-- A line end right behind the opening quotes does not count.
def afterOpening (cs : List Char) : List Char := (newline? cs).getD cs

-- A text in any of the four kinds of quotes; `none` for anything else.
def text? : List Char → Option (String × List Char)
  | '"' :: rest =>
    if startsWith ['"', '"'] rest then longBasic? [] 0 false (afterOpening (rest.drop 2)) else basic? [] 0 rest
  | '\'' :: rest =>
    if startsWith ['\'', '\''] rest then longLiteral? [] (afterOpening (rest.drop 2)) else literal? [] rest
  | _ => none

def isBare (c : Char) : Bool :=
  ('a' ≤ c && c ≤ 'z') || ('A' ≤ c && c ≤ 'Z') || isDigit c || c == '-' || c == '_'

-- One part of a key; a key may be quoted, but not over several lines.
def keyPart? : List Char → Option (String × List Char)
  | '"' :: rest => basic? [] 0 rest
  | '\'' :: rest => literal? [] rest
  | cs =>
    let name := cs.takeWhile isBare
    if name.isEmpty then none else some (String.ofList name, cs.dropWhile isBare)

-- A key is parts with dots between them, blanks allowed around each.
def key? : Nat → List Char → Option (List String × List Char)
  | 0, _ => none
  | fuel + 1, cs =>
    match keyPart? (skipSpace cs) with
    | none => none
    | some (part, rest) =>
      match skipSpace rest with
      | '.' :: more => (key? fuel more).map fun (parts, rest) => (part :: parts, rest)
      | rest => some ([part], rest)

end Harvester.Toml
