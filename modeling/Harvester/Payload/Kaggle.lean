import Harvester.Item
namespace Harvester

structure Competition where
  id : Option Int
  reference : Option String
  title : Option String
  description : Option String
  url : Option String
  category : Option String
  reward : Option String
  deadline : Option Instant
  enabledDate : Option Instant
  tags : List (Option String)
deriving Repr, DecidableEq, Inhabited

open Json

def competitionTag? (doc : Json) : Option (Option String) := do
  let get ← members? [slot "name"] doc
  optional string? (get "name")

def Competition.slots : List Slot :=
  [slot "id", slot "ref", slot "title", slot "description", slot "url", slot "category", slot "reward",
    slot "deadline", slot "enabledDate", omissible "tags"]

def Competition.ofJson? (doc : Json) : Option Competition := do
  let get ← members? slots doc
  let id ← optional long? (get "id")
  let reference ← optional string? (get "ref")
  let title ← optional string? (get "title")
  let description ← optional string? (get "description")
  let url ← optional string? (get "url")
  let category ← optional string? (get "category")
  let reward ← optional string? (get "reward")
  let deadline ← optional Item.instant? (get "deadline")
  let enabledDate ← optional Item.instant? (get "enabledDate")
  let tags ← defaulted [] (listOf? competitionTag?) (get "tags")
  some ⟨id, reference, title, description, url, category, reward, deadline, enabledDate, tags⟩

end Harvester
