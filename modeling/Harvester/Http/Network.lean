import Harvester.Failure
import Harvester.Json.Writer
import Harvester.Http.Url
namespace Harvester.Http

inductive Method
  | get | post | connect
deriving Repr, DecidableEq, Inhabited

def Method.name : Method → String
  | .get => "GET"
  | .post => "POST"
  | .connect => "CONNECT"

-- A request as it goes out.
structure Request where
  method : Method
  url : String
  headers : List (String × String)
  body : Option Json
deriving Repr, Inhabited

-- A request as its sender words it: the address without the query pairs.
structure Call where
  method : Method
  address : String
  query : List (String × String)
  headers : List (String × String)
  body : Option Json
deriving Repr, Inhabited

-- `whole` is false when the body breaks off.
structure Reply where
  url : String
  status : Nat
  body : List UInt8
  whole : Bool
deriving Repr, DecidableEq, Inhabited

-- What the client hands over in the end: redirects are followed within it. Headers of an answer are not kept, so no
-- encoding is declared for its body.
inductive Answer
  | reply (status : Nat) (body : List UInt8) (whole : Bool)
  | closed
deriving Repr, DecidableEq, Inhabited

-- The other side: what it will still answer and what it was sent. An unreachable one gets to see nothing, and one
-- without tunnels does not answer at secure addresses.
structure Network where
  reachable : Bool
  tunnels : Bool
  answers : List Answer
  sent : List Request
deriving Repr, Inhabited

def Network.offline : Network := ⟨false, false, [], []⟩

-- No control characters but the tab.
def isHeaderValue (s : String) : Bool := s.toList.all fun c => (c.toNat ≥ 0x20 && c.toNat != 0x7F) || c == '\t'

def Call.isWorded (call : Call) : Bool := call.headers.all fun header => isHeaderValue header.2

-- The address with its query, if it is one and the headers can be written.
def Call.url? (call : Call) : Option Url :=
  if call.isWorded then (Url.parse? call.address).map fun url => url.withPairs call.query else none

def Call.request (call : Call) (url : Url) : Request := ⟨call.method, url.render, call.headers, call.body⟩

-- These statuses come without a body.
def bodyOf (status : Nat) (body : List UInt8) : List UInt8 := if status = 204 ∨ status = 304 then [] else body

def noAnswer : FetchError := .transport "the connection closed without an answer"

-- One exchange: a request as it is first sent, and the answer that is handed over. Where no tunnel to a secure address
-- is granted, only the request for the tunnel goes out, and no answer is used up.
def Network.send (call : Call) (network : Network) : Except FetchError Reply × Network :=
  match call.url? with
  | none => (.error (.transport "the request cannot be built"), network)
  | some url =>
    if !network.reachable then (.error (.transport "no connection"), network)
    else if url.secure && !network.tunnels then
      (.error (.transport "no tunnel"), { network with sent := network.sent ++ [⟨.connect, url.tunnel, [], none⟩] })
    else
      let sent := network.sent ++ [call.request url]
      match network.answers with
      | [] => (.error noAnswer, { network with sent })
      | .closed :: rest => (.error noAnswer, { network with sent, answers := rest })
      | .reply status body whole :: rest =>
        (.ok ⟨url.render, status, bodyOf status body, whole⟩, { network with sent, answers := rest })

def Reply.text (reply : Reply) : Except FetchError String :=
  if reply.whole then .ok (Text.decodeBody reply.body) else .error (.transport "the body broke off")

def Reply.isSuccess (reply : Reply) : Bool := 200 ≤ reply.status && reply.status < 300

-- The body of a successful answer.
def Reply.success (reply : Reply) : Except FetchError String :=
  if reply.isSuccess then reply.text else .error (.status reply.url reply.status)

end Harvester.Http
