import Harvester.Text.Blank
import Harvester.Json.Value
namespace Harvester.Json

open Text

-- Only the quote, the backslash and the control characters below U+0020 are escaped.
def escapeChar (c : Char) : List Char :=
  let n := c.toNat
  if c = '"' then ['\\', '"']
  else if c = '\\' then ['\\', '\\']
  else if n = 8 then ['\\', 'b']
  else if n = 9 then ['\\', 't']
  else if n = 10 then ['\\', 'n']
  else if n = 12 then ['\\', 'f']
  else if n = 13 then ['\\', 'r']
  else if n < 0x20 then ['\\', 'u', '0', '0', hexDigit (n / 16), hexDigit (n % 16)]
  else [c]

def quote (s : String) : List Char := '"' :: (s.toList.flatMap escapeChar ++ ['"'])

def intText (n : Int) : List Char := (toString n).toList

def numeralText (n : Numeral) : List Char :=
  (if n.negative then ['-'] else []) ++ n.whole ++ (if n.fraction.isEmpty then [] else '.' :: n.fraction) ++
    (match n.exponent with | none => [] | some e => 'e' :: intText e)

-- Compact form: no blanks at all.
mutual
def compact : Json → List Char
  | null => "null".toList
  | bool true => "true".toList
  | bool false => "false".toList
  | int n => intText n
  | decimal n => numeralText n
  | str s => quote s
  | unpaired => quote ""
  | arr items => '[' :: (compactItems items ++ [']'])
  | obj fields => '{' :: (compactFields fields ++ ['}'])
def compactItems : List Json → List Char
  | [] => []
  | [item] => compact item
  | item :: next :: rest => compact item ++ ',' :: compactItems (next :: rest)
def compactFields : List (String × Json) → List Char
  | [] => []
  | [(key, value)] => quote key ++ ':' :: compact value
  | (key, value) :: next :: rest => quote key ++ ':' :: (compact value ++ ',' :: compactFields (next :: rest))
end

def newline (level : Nat) : List Char := '\n' :: List.replicate (2 * level) ' '

-- Laid out form: one element a line, two blanks a level; an empty array or object stays on its line.
mutual
def layout (level : Nat) : Json → List Char
  | arr [] => ['[', ']']
  | arr (item :: rest) => '[' :: (layoutItems (level + 1) (item :: rest) ++ newline level ++ [']'])
  | obj [] => ['{', '}']
  | obj (field :: rest) => '{' :: (layoutFields (level + 1) (field :: rest) ++ newline level ++ ['}'])
  | null => "null".toList
  | bool true => "true".toList
  | bool false => "false".toList
  | int n => intText n
  | decimal n => numeralText n
  | str s => quote s
  | unpaired => quote ""
def layoutItems (level : Nat) : List Json → List Char
  | [] => []
  | [item] => newline level ++ layout level item
  | item :: next :: rest => newline level ++ layout level item ++ ',' :: layoutItems level (next :: rest)
def layoutFields (level : Nat) : List (String × Json) → List Char
  | [] => []
  | [(key, value)] => newline level ++ quote key ++ ':' :: ' ' :: layout level value
  | (key, value) :: next :: rest =>
    newline level ++ quote key ++ ':' :: ' ' :: (layout level value ++ ',' :: layoutFields level (next :: rest))
end

def toText (v : Json) : String := String.ofList (compact v)

def toPrettyText (v : Json) : String := String.ofList (layout 0 v)

end Harvester.Json
