import Harvester.Item
namespace Harvester

-- A release listed for a repository. The repository is not part of the listing; who asked for it knows it.
structure Release where
  id : Int
  tagName : Option String
  name : Option String
  htmlUrl : Option String
  body : Option String
  publishedAt : Option Instant
  prerelease : Bool
  author : Option String
  repo : String
deriving Repr, DecidableEq, Inhabited

-- An entry of a repository's event stream; `payload` depends on its kind.
structure RepoEvent where
  id : Option String
  kind : Option String
  actor : Option String
  repo : Option String
  createdAt : Option Instant
  payload : Json
deriving Repr, Inhabited

open Json

-- A record whose only member of interest is a required text.
def memberText? (name : String) (doc : Json) : Option String := do
  let get ← members? [slot name] doc
  required string? (get name)

def Release.slots : List Slot :=
  [slot "id", slot "tag_name", slot "name", slot "html_url", slot "body", slot "published_at", omissible "prerelease",
    slot "author"]

def Release.ofJson? (doc : Json) : Option Release := do
  let get ← members? slots doc
  let id ← required word? (get "id")
  let tagName ← optional string? (get "tag_name")
  let name ← optional string? (get "name")
  let htmlUrl ← optional string? (get "html_url")
  let body ← optional string? (get "body")
  let publishedAt ← optional Item.instant? (get "published_at")
  let prerelease ← defaulted false flag? (get "prerelease")
  let author ← optional (memberText? "login") (get "author")
  some ⟨id, tagName, name, htmlUrl, body, publishedAt, prerelease, author, ""⟩

def RepoEvent.slots : List Slot :=
  [slot "id", slot "type", slot "actor", slot "repo", slot "created_at", omissible "payload"]

-- The deepest nesting that is still read as a value.
def nestingLimit : Nat := 127

-- A document kept as it is, found `level` arrays and objects deep.
def kept? (level : Nat) (doc : Json) : Option Json :=
  if level + doc.depth ≤ nestingLimit ∧ doc.holds (fun n => n.float?.isSome) then some doc else none

def RepoEvent.ofJson? (level : Nat) (doc : Json) : Option RepoEvent := do
  let get ← members? slots doc
  let id ← optional string? (get "id")
  let kind ← optional string? (get "type")
  let actor ← optional (memberText? "login") (get "actor")
  let repo ← optional (memberText? "name") (get "repo")
  let createdAt ← optional Item.instant? (get "created_at")
  let payload ← defaulted Json.null (kept? level) (get "payload")
  some ⟨id, kind, actor, repo, createdAt, payload⟩

-- A member of the payload; of a repeated one, the last.
def RepoEvent.detail? (event : RepoEvent) (key : String) : Option Json :=
  match event.payload with
  | .obj fields => Json.lastField? key fields
  | _ => none

end Harvester
