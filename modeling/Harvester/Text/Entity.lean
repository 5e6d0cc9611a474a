import Harvester.Text.EntityTable
namespace Harvester.Text

-- Control characters below U+0020 are no text, apart from tab, line feed, form feed and carriage return.
def isTextCode (n : Nat) : Bool := 0x20 ≤ n || n == 9 || n == 10 || n == 12 || n == 13

-- What stands between `&` and `;`: a name, or a number in base ten or sixteen. A name for two characters gives its
-- first.
def entity? (body : List Char) : Option Char :=
  match body with
  | '#' :: 'x' :: digits => ((hexadecimal? digits).filter isTextCode).bind scalar?
  | '#' :: 'X' :: digits => ((hexadecimal? digits).filter isTextCode).bind scalar?
  | '#' :: digits => ((decimal? digits).filter isTextCode).bind scalar?
  | name => (named? name).bind fun entry => entry.codes.head?.bind scalar?

-- `pending` holds, reversed, what has been read since the last `&`. A reference that means nothing stays as it is.
def decodeWith (meaning : List Char → Option Char) (pending : Option (List Char)) : List Char → List Char
  | [] =>
    match pending with
    | none => []
    | some body => '&' :: body.reverse
  | c :: rest =>
    match pending with
    | none => if c = '&' then decodeWith meaning (some []) rest else c :: decodeWith meaning none rest
    | some body =>
      if c = '&' then '&' :: body.reverse ++ decodeWith meaning (some []) rest
      else if c = ';' then
        match meaning body.reverse with
        | some d => d :: decodeWith meaning none rest
        | none => '&' :: body.reverse ++ ';' :: decodeWith meaning none rest
      else decodeWith meaning (some (c :: body)) rest

def decodeEntities (cs : List Char) : List Char := decodeWith entity? none cs

end Harvester.Text
