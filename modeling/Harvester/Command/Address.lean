import Harvester.Text.Blank
namespace Harvester

open Text

-- An IPv4 address with a port.
structure SocketAddress where
  octets : List Nat
  port : Nat
deriving Repr, DecidableEq, Inhabited

namespace SocketAddress

def split (separator : Char) (piece : List Char) : List Char → List (List Char)
  | [] => [piece.reverse]
  | c :: rest => if c = separator then piece.reverse :: split separator [] rest else split separator (c :: piece) rest

-- No more than three digits, and no zero in front of others.
def octet? (cs : List Char) : Option Nat :=
  match cs with
  | '0' :: _ :: _ => none
  | _ => if cs.length > 3 then none else (decimal? cs).bind fun n => if n ≤ 255 then some n else none

def port? (cs : List Char) : Option Nat := (decimal? cs).bind fun n => if n ≤ 65535 then some n else none

def parse? (text : String) : Option SocketAddress :=
  match split ':' [] text.toList with
  | [host, port] => do
    let octets ← (split '.' [] host).mapM octet?
    let port ← port? port
    if octets.length = 4 then some ⟨octets, port⟩ else none
  | _ => none

def render (a : SocketAddress) : String := ".".intercalate (a.octets.map toString) ++ ":" ++ toString a.port

end SocketAddress

end Harvester
