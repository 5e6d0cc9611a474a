import Harvester.Item
namespace Harvester

structure DevArticle where
  id : Option Int
  title : Option String
  description : Option String
  url : Option String
  publishedAt : Option Instant
  tags : List String
  author : Option String
deriving Repr, DecidableEq, Inhabited

open Json

def devUser? (doc : Json) : Option (Option String) := do
  let get ← members? [slot "username"] doc
  optional string? (get "username")

def DevArticle.slots : List Slot :=
  [slot "id", slot "title", slot "description", slot "url", slot "published_at", omissible "tag_list", slot "user"]

def DevArticle.ofJson? (doc : Json) : Option DevArticle := do
  let get ← members? slots doc
  let id ← optional long? (get "id")
  let title ← optional string? (get "title")
  let description ← optional string? (get "description")
  let url ← optional string? (get "url")
  let publishedAt ← optional Item.instant? (get "published_at")
  let tags ← defaulted [] (listOf? string?) (get "tag_list")
  let user ← optional devUser? (get "user")
  some ⟨id, title, description, url, publishedAt, tags, user.join⟩

end Harvester
