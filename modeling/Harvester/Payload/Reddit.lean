import Harvester.Item
namespace Harvester

-- A post of a subreddit. `createdUtc` is given in seconds, perhaps with a fraction, of which the whole part counts.
structure RedditPost where
  id : Option String
  title : Option String
  url : Option String
  permalink : Option String
  selftext : Option String
  author : Option String
  subreddit : Option String
  createdUtc : Option Int
  score : Option Int
deriving Repr, DecidableEq, Inhabited

open Json

def wholeSeconds? (doc : Json) : Option Int := (float? doc).map fun f => f.toInt64.toInt

def RedditPost.slots : List Slot :=
  [slot "id", slot "title", slot "url", slot "permalink", slot "selftext", slot "author", slot "subreddit",
    slot "created_utc", slot "score"]

def RedditPost.ofJson? (doc : Json) : Option RedditPost := do
  let get ← members? slots doc
  let id ← optional string? (get "id")
  let title ← optional string? (get "title")
  let url ← optional string? (get "url")
  let permalink ← optional string? (get "permalink")
  let selftext ← optional string? (get "selftext")
  let author ← optional string? (get "author")
  let subreddit ← optional string? (get "subreddit")
  let createdUtc ← optional wholeSeconds? (get "created_utc")
  let score ← optional long? (get "score")
  some ⟨id, title, url, permalink, selftext, author, subreddit, createdUtc, score⟩

-- A listing wraps its posts twice; both wrappings may be missing their contents.
def redditChild? (doc : Json) : Option RedditPost := do
  let get ← members? [slot "data"] doc
  required RedditPost.ofJson? (get "data")

def redditChildren? (doc : Json) : Option (List RedditPost) := do
  let get ← members? [omissible "children"] doc
  defaulted [] (listOf? redditChild?) (get "children")

def redditListing? (doc : Json) : Option (List RedditPost) := do
  let get ← members? [slot "data"] doc
  let data ← optional redditChildren? (get "data")
  some (data.getD [])

end Harvester
