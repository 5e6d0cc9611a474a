import Harvester.Xml.Node
namespace Harvester.Xml

open Text

-- The five names that need no declaration.
def predefined? (name : List Char) : Option Char :=
  if name = ['l', 't'] then some '<'
  else if name = ['g', 't'] then some '>'
  else if name = ['a', 'm', 'p'] then some '&'
  else if name = ['a', 'p', 'o', 's'] then some '\''
  else if name = ['q', 'u', 'o', 't'] then some '"'
  else none

-- A character by its number, which is not zero, or by its name.
def meaning? (body : List Char) : Option Char :=
  match body with
  | '#' :: 'x' :: digits => ((hexadecimal? digits).filter (· != 0)).bind scalar?
  | '#' :: digits => ((decimal? digits).filter (· != 0)).bind scalar?
  | name => predefined? name

-- `pending` holds, reversed, what has been read since the last `&`. Every `&` must begin a reference with a meaning.
def resolveFrom (pending : Option (List Char)) : List Char → Option (List Char)
  | [] =>
    match pending with
    | none => some []
    | some _ => none
  | c :: rest =>
    match pending with
    | none =>
      if c = '&' then resolveFrom (some []) rest else (resolveFrom none rest).map (c :: ·)
    | some body =>
      if c = '&' then none
      else if c = ';' then
        match meaning? body.reverse with
        | some d => (resolveFrom none rest).map (d :: ·)
        | none => none
      else resolveFrom (some (c :: body)) rest

def resolve? (raw : List Char) : Option (List Char) := resolveFrom none raw

-- The written form of a text: the five characters of the predefined names become references.
def escapeChar (c : Char) : List Char :=
  if c = '<' then "&lt;".toList
  else if c = '>' then "&gt;".toList
  else if c = '&' then "&amp;".toList
  else if c = '\'' then "&apos;".toList
  else if c = '"' then "&quot;".toList
  else [c]

def escape (cs : List Char) : List Char := cs.flatMap escapeChar

def dropSpaces (cs : List Char) : List Char := cs.dropWhile isSpace

def dropSpacesEnd (cs : List Char) : List Char := (cs.reverse.dropWhile isSpace).reverse

-- A run is a stretch of text and CDATA pieces. Blank pieces at its start vanish.
def trimFront : List Node → List Node
  | .text raw :: rest => if raw.all isSpace then trimFront rest else .text (dropSpaces raw) :: rest
  | run => run

-- Only the last piece loses its trailing blanks, and a CDATA piece none.
def trimBack : List Node → List Node
  | [] => []
  | [.text raw] => [.text (dropSpacesEnd raw)]
  | piece :: rest => piece :: trimBack rest

-- The pieces joined. References mean something in text, not in CDATA.
def joined? : List Node → Option (List Char)
  | [] => some []
  | .text raw :: rest => (resolve? raw).bind fun cs => (joined? rest).map (cs ++ ·)
  | .cdata raw :: rest => (joined? rest).map (raw ++ ·)
  | _ :: rest => joined? rest

-- What a run says: nothing when it is blank. `front` tells whether its start is trimmed.
def runText? (front : Bool) (run : List Node) : Option (Option (List Char)) :=
  match if front then trimFront run else run with
  | [] => some none
  | [.text raw] => if raw.all isSpace then some none else (joined? [.text (dropSpacesEnd raw)]).map some
  | run => (joined? (trimBack run)).map some

-- Whether all references in a piece of content, at any depth, have a meaning.
mutual
def sound : Node → Bool
  | .text raw => (resolve? raw).isSome
  | .cdata _ => true
  | .doctype => true
  | .element _ _ content => soundAll content
def soundAll : List Node → Bool
  | [] => true
  | node :: rest => sound node && soundAll rest
end

end Harvester.Xml
