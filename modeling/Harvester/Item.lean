import Harvester.Keyed
import Harvester.Instant.Reading
import Harvester.Json.Field
namespace Harvester

-- The outside system an item came from.
inductive Provider
  | github | reddit | newsApi | kaggle | productHunt | devTo | codeforces | rss | atcoder
deriving Repr, DecidableEq, Inhabited

def Provider.all : List Provider :=
  [.github, .reddit, .newsApi, .kaggle, .productHunt, .devTo, .codeforces, .rss, .atcoder]

def Provider.name : Provider → String
  | .github => "GITHUB"
  | .reddit => "REDDIT"
  | .newsApi => "NEWS_API"
  | .kaggle => "KAGGLE"
  | .productHunt => "PRODUCT_HUNT"
  | .devTo => "DEV_TO"
  | .codeforces => "CODEFORCES"
  | .rss => "RSS"
  | .atcoder => "ATCODER"

inductive ItemType
  | release | event | article | post | product | competition | contest
deriving Repr, DecidableEq, Inhabited

def ItemType.all : List ItemType := [.release, .event, .article, .post, .product, .competition, .contest]

def ItemType.name : ItemType → String
  | .release => "RELEASE"
  | .event => "EVENT"
  | .article => "ARTICLE"
  | .post => "POST"
  | .product => "PRODUCT"
  | .competition => "COMPETITION"
  | .contest => "CONTEST"

-- How an item was obtained. Feeds fail one by one, a scraped page fails as a whole.
inductive SourceType
  | api | rss | scrape
deriving Repr, DecidableEq, Inhabited

def SourceType.all : List SourceType := [.api, .rss, .scrape]

def SourceType.name : SourceType → String
  | .api => "API"
  | .rss => "RSS"
  | .scrape => "SCRAPE"

inductive Status
  | draft | published
deriving Repr, DecidableEq, Inhabited

def Status.all : List Status := [.draft, .published]

def Status.name : Status → String
  | .draft => "DRAFT"
  | .published => "PUBLISHED"

-- The constant of a wire name, which is written exactly.
def named (all : List α) (name : α → String) (text : String) : Option α := all.find? fun x => name x == text

def Provider.ofName? : String → Option Provider := named Provider.all Provider.name
def ItemType.ofName? : String → Option ItemType := named ItemType.all ItemType.name
def SourceType.ofName? : String → Option SourceType := named SourceType.all SourceType.name
def Status.ofName? : String → Option Status := named Status.all Status.name

-- What every source is brought to. Provider and external id together identify an item.
structure Item where
  provider : Provider
  itemType : ItemType
  title : String
  url : Option String
  summary : Option String
  publishedAt : Instant
  sourceType : SourceType
  status : Option Status
  externalId : String
  metadata : Keyed String
deriving Repr, DecidableEq, Inhabited

structure ItemKey where
  provider : Provider
  externalId : String
deriving Repr, DecidableEq, Inhabited

def Item.key (item : Item) : ItemKey := ⟨item.provider, item.externalId⟩

namespace Item

open Json

def ofOption (s : Option String) : Json :=
  match s with
  | none => .null
  | some s => .str s

def toJson (item : Item) : Json :=
  .obj [("provider", .str item.provider.name), ("itemType", .str item.itemType.name), ("title", .str item.title),
    ("url", ofOption item.url), ("summary", ofOption item.summary), ("publishedAt", .str item.publishedAt.render),
    ("sourceType", .str item.sourceType.name), ("status", ofOption (item.status.map Status.name)),
    ("externalId", .str item.externalId), ("metadata", .obj (item.metadata.entries.map fun e => (e.1, .str e.2)))]

def slots : List Slot :=
  [slot "provider", slot "itemType", slot "title", slot "url", slot "summary", slot "publishedAt", slot "sourceType",
    slot "status", slot "externalId", omissible "metadata"]

def metadata? : Json → Option (Keyed String)
  | .obj fields => (fields.mapM fun (field : String × Json) => (string? field.2).map fun s => (field.1, s)).map Keyed.ofList
  | _ => none

def instant? (doc : Json) : Option Instant := (string? doc).bind Instant.ofWire?

def ofJson? (doc : Json) : Option Item := do
  let get ← members? slots doc
  let provider ← required (constant? Provider.ofName?) (get "provider")
  let itemType ← required (constant? ItemType.ofName?) (get "itemType")
  let title ← required string? (get "title")
  let url ← optional string? (get "url")
  let summary ← optional string? (get "summary")
  let publishedAt ← required instant? (get "publishedAt")
  let sourceType ← required (constant? SourceType.ofName?) (get "sourceType")
  let status ← optional (constant? Status.ofName?) (get "status")
  let externalId ← required string? (get "externalId")
  let metadata ← defaulted Keyed.empty metadata? (get "metadata")
  some ⟨provider, itemType, title, url, summary, publishedAt, sourceType, status, externalId, metadata⟩

end Item

end Harvester
