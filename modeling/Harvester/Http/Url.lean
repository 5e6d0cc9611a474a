import Harvester.Http.Form
namespace Harvester.Http

open Text

-- An address in its normal form, without user and fragment.
structure Url where
  secure : Bool
  host : List Char
  port : Option Nat
  path : List Char
  query : Option (List Char)
deriving Repr, DecidableEq, Inhabited

namespace Url

def isControl (c : Char) : Bool := c.toNat < 0x20

-- Blanks and controls around an address and line breaks within do not count.
def tidied (cs : List Char) : List Char :=
  let outer (c : Char) := isControl c || c == ' '
  (((cs.dropWhile outer).reverse.dropWhile outer).reverse).filter fun c => c != '\t' && c != '\n' && c != '\r'

def isSlash (c : Char) : Bool := c == '/' || c == '\\'

-- The scheme, and what follows its colon and slashes.
def scheme? (cs : List Char) : Option (Bool × List Char) :=
  match (cs.takeWhile (· != ':')).map lowerAscii, cs.dropWhile (· != ':') with
  | ['h', 't', 't', 'p'], ':' :: rest => some (false, rest.dropWhile isSlash)
  | ['h', 't', 't', 'p', 's'], ':' :: rest => some (true, rest.dropWhile isSlash)
  | _, _ => none

def mayStandInHost (c : Char) : Bool :=
  !(isControl c || " #/:<>?@[\\]^|%".toList.contains c || c.toNat == 0x7F)

def isIpv6 (cs : List Char) : Bool :=
  match cs with
  | '[' :: rest => rest.getLast? == some ']' && rest.dropLast.all fun c => (hexValue? c).isSome || c == ':' || c == '.'
  | _ => false

def isHost (cs : List Char) : Bool := !cs.isEmpty && (cs.all mayStandInHost || isIpv6 cs)

-- Behind the last `@`.
def withoutUser (cs : List Char) : List Char := (cs.reverse.takeWhile (· != '@')).reverse

def hostEnd (cs : List Char) : List Char :=
  match cs with
  | '[' :: rest => '[' :: (rest.takeWhile (· != ']') ++ (rest.dropWhile (· != ']')).take 1)
  | cs => cs.takeWhile (· != ':')

def port? (secure : Bool) : List Char → Option (Option Nat)
  | [] => some none
  | ':' :: digits =>
    if digits.isEmpty then some none
    else (decimal? digits).bind fun n =>
      if n > 65535 then none else some (if n = (if secure then 443 else 80) then none else some n)
  | _ => none

def percentText (mustEscape : Char → Bool) (cs : List Char) : List Char :=
  cs.flatMap fun c => if mustEscape c || c.toNat ≥ 0x7F || isControl c then (charBytes c).flatMap percentByte else [c]

def pathEscapes (c : Char) : Bool := " \"#<>?`\x7b\x7d^".toList.contains c
def queryEscapes (c : Char) : Bool := " \"#<>'".toList.contains c

def isHere (segment : List Char) : Bool :=
  let s := segment.map lowerAscii
  s == ['.'] || s == ['%', '2', 'e']

def isUp (segment : List Char) : Bool :=
  let s := segment.map lowerAscii
  s == ['.', '.'] || s == ".%2e".toList || s == "%2e.".toList || s == "%2e%2e".toList

-- Segments that stay, newest first. A dot segment at the end leaves an empty one.
def resolved (kept : List (List Char)) : List (List Char) → List (List Char)
  | [] => kept.reverse
  | [last] =>
    if isUp last then ([] :: kept.drop 1).reverse
    else if isHere last then ([] :: kept).reverse
    else (last :: kept).reverse
  | segment :: rest =>
    if isUp segment then resolved (kept.drop 1) rest
    else if isHere segment then resolved kept rest
    else resolved (segment :: kept) rest

def pathOf (cs : List Char) : List Char :=
  let segments := splitAt '/' ((cs.map fun c => if c = '\\' then '/' else c).drop 1)
  (resolved [] (segments.map (percentText pathEscapes))).flatMap ('/' :: ·)

def ofChars? (cs : List Char) : Option Url := do
  let (secure, rest) ← scheme? (tidied cs)
  let beforeFragment := rest.takeWhile (· != '#')
  let beforeQuery := beforeFragment.takeWhile (· != '?')
  let authority := withoutUser (beforeQuery.takeWhile fun c => !isSlash c)
  let host := hostEnd authority
  let port ← port? secure (authority.drop host.length)
  let query := match beforeFragment.dropWhile (· != '?') with
    | [] => none
    | _ :: q => some (percentText queryEscapes q)
  if isHost host then
    some ⟨secure, host.map lowerAscii, port, pathOf (beforeQuery.dropWhile fun c => !isSlash c), query⟩
  else none

def parse? (s : String) : Option Url := ofChars? s.toList

def authority (url : Url) : List Char :=
  match url.port with
  | none => url.host
  | some n => url.host ++ ':' :: (toString n).toList

def render (url : Url) : String :=
  String.ofList ((if url.secure then "https://" else "http://").toList ++ url.authority ++ url.path ++
    (match url.query with | none => [] | some q => '?' :: q))

-- Where a tunnel for a secure address leads.
def tunnel (url : Url) : String :=
  String.ofList url.host ++ ":" ++ toString (url.port.getD 443)

-- More pairs behind the query there is. No pair and no query leave none.
def withPairs (url : Url) (pairs : List (String × String)) : Url :=
  match url.query.getD [], formPairs pairs with
  | [], [] => { url with query := none }
  | [], added => { url with query := some added }
  | had, [] => { url with query := some had }
  | had, added => { url with query := some (had ++ '&' :: added) }

end Url

end Harvester.Http
