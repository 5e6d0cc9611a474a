import Harvester.Http.Body
import Harvester.Http.Status
namespace Harvester

open Http

-- A store takes items one at a time and refuses some. Its state is its own affair; it may use the network.
structure Sink (σ : Type) where
  create : Item → Network → σ → Except Refusal Unit × Network × σ

-- A store held in memory. `seen` are the keys that count as duplicates, `stored` the items in the order they came.
-- Items with a failing id are refused before anything is remembered of them.
structure Shelf where
  failing : List String
  seen : List ItemKey
  stored : List Item
deriving Repr, DecidableEq, Inhabited

namespace Shelf

def empty : Shelf := ⟨[], [], []⟩

def preload (shelf : Shelf) (key : ItemKey) : Shelf :=
  if key ∈ shelf.seen then shelf else { shelf with seen := key :: shelf.seen }

def create (item : Item) (shelf : Shelf) : Except Refusal Unit × Shelf :=
  if item.externalId ∈ shelf.failing then (.error (.failed (some 500) "simulated failure"), shelf)
  else if item.key ∈ shelf.seen then (.error .duplicate, shelf)
  else (.ok (), { shelf with seen := item.key :: shelf.seen, stored := shelf.stored ++ [item] })

def sink : Sink Shelf where
  create item network shelf :=
    let (answer, after) := create item shelf
    (answer, network, after)

end Shelf

namespace RemoteStore

def endpoint (base : String) : String := trimBase base ++ "/items"

def call (base : String) (item : Item) : Call :=
  ⟨.post, endpoint base, [], [("accept", "*/*"), ("content-type", "application/json")], some item.toJson⟩

-- At most this many characters of an answer are quoted.
def quotedLimit : Nat := 200

def quoted (reply : Reply) : String :=
  let body := match reply.text with
    | .ok text => String.ofList (text.toList.take quotedLimit)
    | .error _ => ""
  if body.isEmpty then statusText reply.status else body

-- 200 and 201 mean created, 409 means that the item is there already.
def verdict (reply : Reply) : Except Refusal Unit :=
  if reply.status = 200 ∨ reply.status = 201 then .ok ()
  else if reply.status = 409 then .error .duplicate
  else .error (.failed (some reply.status) (quoted reply))

def create (base : String) (item : Item) (network : Network) : Except Refusal Unit × Network :=
  match network.send (call base item) with
  | (.error e, after) => (.error (.failed none e.message), after)
  | (.ok reply, after) => (verdict reply, after)

def sink (base : String) : Sink σ where
  create item network store :=
    let (answer, after) := create base item network
    (answer, after, store)

end RemoteStore

end Harvester
