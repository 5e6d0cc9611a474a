import Harvester.Contest.Page
import Harvester.Source.Listing
import Harvester.Text.Base64
namespace Harvester

open Http

-- How the requests of the sources introduce themselves.
structure Client where
  agent : String
deriving Repr, DecidableEq, Inhabited

namespace Client

def headers (client : Client) (accept : String) : List (String × String) :=
  [("accept", accept), ("user-agent", client.agent)]

def get (client : Client) (address : String) (query : List (String × String)) (more : List (String × String)) : Call :=
  ⟨.get, address, query, client.headers "*/*" ++ more, none⟩

end Client

def bearer (token : String) : String × String := ("authorization", "Bearer " ++ token)

def basic (user password : String) : String × String :=
  ("authorization", "Basic " ++ String.ofList (Text.base64 (Text.utf8 (user ++ ":" ++ password))))

def noRemarks (_ : List RawItem) : List Note := []

-- A body that is a plain list of items; no data is no item.
def listedItems (what : String) (read : Json → Option α) (wrap : α → RawItem) (body : String) :
    Except FetchError (List RawItem) :=
  (documentOf what (Json.listOf? read) body).map fun data => (data.getD []).map wrap

-- A body with an envelope around its items.
def envelopedItems (what : String) (read : Json → Option α) (contents : α → Except FetchError (List RawItem))
    (body : String) : Except FetchError (List RawItem) :=
  (documentOf what read body).bind fun data =>
    match data with
    | none => .ok []
    | some envelope => contents envelope

def pageText (run : Run) : String := (run.page.getD .one).text

-- The page size of a run, else the configured one.
def sizeText (run : Run) (configured : Nat) : String :=
  match run.perPage with
  | some n => n.text
  | none => toString configured

namespace Github

def origin : String := "https://api.github.com"

def standardPageSize : Nat := 30

inductive Stream
  | releases | events
deriving Repr, DecidableEq, Inhabited

def Stream.path : Stream → String
  | .releases => "releases"
  | .events => "events"

def Stream.label : Stream → String
  | .releases => "Releases"
  | .events => "Events"

-- Events stand in a list, which counts as one level of nesting of what they keep.
def Stream.read (stream : Stream) (repo : String) : String → Except FetchError (List RawItem) :=
  match stream with
  | .releases => listedItems "github releases" Release.ofJson? fun r => .release { r with repo }
  | .events => listedItems "github events" (RepoEvent.ofJson? 2) .event

def remarks (stream : Stream) (repo : String) (items : List RawItem) : List Note :=
  [.say .debug "devfeed_collector::ingest::providers::github" "github fetched"
    [("repo", .text repo), ("count", .number items.length), ("feed", .text stream.label)]]

def listing (client : Client) (base : String) (token : Option String) (stream : Stream) (run : Run) (repo : String) :
    Listing where
  call := ⟨.get, base ++ "/repos/" ++ repo ++ "/" ++ stream.path,
    [("per_page", sizeText run standardPageSize), ("page", pageText run)],
    client.headers "application/vnd.github+json" ++ (token.map bearer).toList, none⟩
  read := stream.read repo
  remarks := remarks stream repo

def source (client : Client) (base : String) (repos : List String) (token : Option String) (stream : Stream) : Source :=
  .ofListings .github .api fun run => repos.map (listing client (trimBase base) token stream run)

end Github

namespace Reddit

def origin : String := "https://www.reddit.com"

-- At least one and at most what 32 bits hold.
def limitText (run : Run) (limit : Nat) : String :=
  match run.perPage with
  | some n => toString (min (max n.value 1) 4294967295)
  | none => toString limit

-- A subreddit among the run's parameters takes the place of the configured ones.
def subreddits (configured : List String) (run : Run) : List String :=
  match run.subreddit with
  | some one => [one]
  | none => configured

def listing (client : Client) (base sort : String) (limit : Nat) (run : Run) (subreddit : String) : Listing where
  call := client.get (base ++ "/r/" ++ subreddit ++ "/" ++ sort ++ ".json")
    (("limit", limitText run limit) :: (run.cursor.map fun after => ("after", after)).toList) []
  read := envelopedItems "reddit listing" redditListing? fun posts => .ok (posts.map .reddit)
  remarks := noRemarks

def source (client : Client) (base : String) (configured : List String) (sort : String) (limit : Nat) : Source :=
  .ofListings .reddit .api fun run => (subreddits configured run).map (listing client (trimBase base) sort limit run)

end Reddit

namespace News

def origin : String := "https://newsapi.org"

def query (configured : String) (pageSize : Nat) (run : Run) : List (String × String) :=
  [("q", run.query.getD configured), ("pageSize", sizeText run pageSize), ("page", pageText run),
    ("sortBy", "publishedAt")] ++ (run.from?.map fun date => ("from", date)).toList

-- The service reports its own failures in a well formed answer.
def contents (page : NewsPage) : Except FetchError (List RawItem) :=
  if page.status = some "error" then .error (.remote (page.message.getD "newsapi error"))
  else .ok ((page.articles.getD []).map .news)

def listing (client : Client) (base key configured : String) (pageSize : Nat) (run : Run) : Listing where
  call := client.get (base ++ "/v2/everything") (query configured pageSize run) [("x-api-key", key)]
  read := envelopedItems "newsapi everything" NewsPage.ofJson? contents
  remarks := noRemarks

def source (client : Client) (base key configured : String) (pageSize : Nat) : Source :=
  .ofListings .newsApi .api fun run => [listing client (trimBase base) key configured pageSize run]

end News

namespace Kaggle

def origin : String := "https://www.kaggle.com"

def query (configured : Option String) (run : Run) : List (String × String) :=
  ("page", pageText run) :: ((run.query.or configured).map fun search => ("search", search)).toList

def listing (client : Client) (base user key : String) (configured : Option String) (run : Run) : Listing where
  call := client.get (base ++ "/api/v1/competitions/list") (query configured run) [basic user key]
  read := listedItems "kaggle competitions" Competition.ofJson? .competition
  remarks := noRemarks

def source (client : Client) (base user key : String) (configured : Option String) : Source :=
  .ofListings .kaggle .api fun run => [listing client (trimBase base) user key configured run]

end Kaggle

namespace ProductHunt

def origin : String := "https://api.producthunt.com"

def postsQuery : String :=
  "query Posts($first: Int!, $after: String) \x7b\n" ++
  "  posts(first: $first, after: $after, order: NEWEST) \x7b\n" ++
  "    edges \x7b node \x7b id name tagline url createdAt votesCount\n" ++
  "      topics \x7b edges \x7b node \x7b name \x7d \x7d \x7d \x7d \x7d\n" ++
  "    pageInfo \x7b endCursor hasNextPage \x7d\n" ++
  "  \x7d\n" ++
  "\x7d"

def bindings (first : Nat) (run : Run) : Json :=
  .obj [("after", Item.ofOption run.cursor),
    ("first", .int (match run.perPage with | some n => n.value | none => first))]

-- Without any data the first error counts; with data the errors are passed over.
def contents (page : LaunchPage) : Except FetchError (List RawItem) :=
  match page.data, page.errors with
  | none, first :: _ => .error (.remote first)
  | none, [] => .ok []
  | some posts, _ => .ok ((posts.getD []).map .launch)

def listing (client : Client) (base token : String) (first : Nat) (run : Run) : Listing where
  call := ⟨.post, base ++ "/v2/api/graphql", [],
    client.headers "*/*" ++ [bearer token, ("content-type", "application/json")],
    some (.obj [("query", .str postsQuery), ("variables", bindings first run)])⟩
  read := envelopedItems "producthunt graphql" LaunchPage.ofJson? contents
  remarks := noRemarks

def source (client : Client) (base token : String) (first : Nat) : Source :=
  .ofListings .productHunt .api fun run => [listing client (trimBase base) token first run]

end ProductHunt

namespace DevTo

def origin : String := "https://dev.to"

def query (configured : Option String) (pageSize : Nat) (run : Run) : List (String × String) :=
  [("per_page", sizeText run pageSize), ("page", pageText run)] ++
    ((run.tag.or configured).map fun tag => ("tag", tag)).toList

def listing (client : Client) (base : String) (configured : Option String) (pageSize : Nat) (run : Run) : Listing where
  call := client.get (base ++ "/api/articles") (query configured pageSize run) []
  read := listedItems "dev.to articles" DevArticle.ofJson? .article
  remarks := noRemarks

def source (client : Client) (base : String) (configured : Option String) (pageSize : Nat) : Source :=
  .ofListings .devTo .api fun run => [listing client (trimBase base) configured pageSize run]

end DevTo

namespace Codeforces

def origin : String := "https://codeforces.com"

def flagText (gym : Bool) : String := if gym then "true" else "false"

def contents (gym : Bool) (list : RoundList) : Except FetchError (List RawItem) :=
  if list.status = "OK" then .ok ((list.result.getD []).map fun r => .round { r with gym })
  else .error (.remote (list.comment.getD ("status " ++ list.status)))

def listing (client : Client) (base : String) (gym : Bool) : Listing where
  call := client.get (base ++ "/api/contest.list") [("gym", flagText gym)] []
  read := envelopedItems "codeforces contest.list" RoundList.ofJson? (contents gym)
  remarks := noRemarks

def source (client : Client) (base : String) (gym : Bool) : Source :=
  .ofListings .codeforces .api fun run => [listing client (trimBase base) (run.gym.getD gym)]

end Codeforces

namespace Atcoder

def origin : String := "https://atcoder.jp"

def contents (pageUrl base page : String) : Except FetchError (List RawItem) :=
  match Contest.ofPage base page with
  | .ok contests => .ok (contests.map .contest)
  | .error fault => .error (.markup pageUrl fault.message)

def listing (client : Client) (base : String) : Listing where
  call := client.get (base ++ "/contests/") [("lang", "en")] []
  read := contents (base ++ "/contests/") base
  remarks := noRemarks

def source (client : Client) (base : String) : Source :=
  .ofListings .atcoder .scrape fun _ => [listing client (trimBase base)]

end Atcoder

end Harvester
