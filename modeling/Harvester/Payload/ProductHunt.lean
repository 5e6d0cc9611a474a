import Harvester.Item
namespace Harvester

-- A launched product. `topics` is none where the service sent none, which differs from an empty list.
structure Launch where
  id : Option String
  name : Option String
  tagline : Option String
  url : Option String
  createdAt : Option Instant
  votes : Option Int
  topics : Option (List String)
deriving Repr, DecidableEq, Inhabited

open Json

-- The nodes of a connection, each wrapped in an edge.
def edge? (read : Json → Option α) (doc : Json) : Option α := do
  let get ← members? [slot "node"] doc
  required read (get "node")

def connection? (read : Json → Option α) (doc : Json) : Option (List α) := do
  let get ← members? [omissible "edges"] doc
  defaulted [] (listOf? (edge? read)) (get "edges")

def topic? (doc : Json) : Option String := do
  let get ← members? [slot "name"] doc
  required string? (get "name")

def Launch.slots : List Slot :=
  [slot "id", slot "name", slot "tagline", slot "url", slot "createdAt", slot "votesCount", slot "topics"]

def Launch.ofJson? (doc : Json) : Option Launch := do
  let get ← members? slots doc
  let id ← optional string? (get "id")
  let name ← optional string? (get "name")
  let tagline ← optional string? (get "tagline")
  let url ← optional string? (get "url")
  let createdAt ← optional Item.instant? (get "createdAt")
  let votes ← optional long? (get "votesCount")
  let topics ← optional (connection? topic?) (get "topics")
  some ⟨id, name, tagline, url, createdAt, votes, topics⟩

-- What the query interface answers: data, and the messages of what went wrong. Inside the data the posts themselves
-- may be missing.
structure LaunchPage where
  data : Option (Option (List Launch))
  errors : List String
deriving Repr, DecidableEq, Inhabited

def launchData? (doc : Json) : Option (Option (List Launch)) := do
  let get ← members? [slot "posts"] doc
  optional (connection? Launch.ofJson?) (get "posts")

def launchError? (doc : Json) : Option String := do
  let get ← members? [slot "message"] doc
  required string? (get "message")

def LaunchPage.ofJson? (doc : Json) : Option LaunchPage := do
  let get ← members? [slot "data", omissible "errors"] doc
  let data ← optional launchData? (get "data")
  let errors ← defaulted [] (listOf? launchError?) (get "errors")
  some ⟨data, errors⟩

end Harvester
