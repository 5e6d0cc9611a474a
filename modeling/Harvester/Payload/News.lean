import Harvester.Item
namespace Harvester

structure NewsArticle where
  source : Option String
  author : Option String
  title : Option String
  description : Option String
  url : Option String
  publishedAt : Option Instant
deriving Repr, DecidableEq, Inhabited

open Json

-- The publication: its name, if it has one.
def newsSource? (doc : Json) : Option (Option String) := do
  let get ← members? [slot "id", slot "name"] doc
  let _ ← optional string? (get "id")
  optional string? (get "name")

def NewsArticle.slots : List Slot :=
  [slot "source", slot "author", slot "title", slot "description", slot "url", slot "publishedAt"]

def NewsArticle.ofJson? (doc : Json) : Option NewsArticle := do
  let get ← members? slots doc
  let source ← optional newsSource? (get "source")
  let author ← optional string? (get "author")
  let title ← optional string? (get "title")
  let description ← optional string? (get "description")
  let url ← optional string? (get "url")
  let publishedAt ← optional Item.instant? (get "publishedAt")
  some ⟨source.join, author, title, description, url, publishedAt⟩

-- A page of articles, or the service's report of its own failure.
structure NewsPage where
  status : Option String
  message : Option String
  articles : Option (List NewsArticle)
deriving Repr, DecidableEq, Inhabited

def NewsPage.ofJson? (doc : Json) : Option NewsPage := do
  let get ← members? [slot "status", slot "message", slot "articles"] doc
  let status ← optional string? (get "status")
  let message ← optional string? (get "message")
  let articles ← optional (listOf? NewsArticle.ofJson?) (get "articles")
  some ⟨status, message, articles⟩

end Harvester
