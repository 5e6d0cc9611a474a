import Harvester.Proofs.Http.Exchange
import Harvester.Proofs.Json.Elements
import Harvester.Settings.Jobs
namespace Harvester

open Http Json

-- A list of items that comes as a JSON document: where its elements stand, and what each of them is.
inductive Catalog
  | repository (stream : Github.Stream) (repo : String)
  | posts (subreddit : String)
  | articles
  | competitions
  | launches
  | devArticles
  | rounds (gym : Bool)

namespace Catalog

-- The elements, still unread. A report of failure in place of the list is no list.
def elements? : Catalog → Json → Option (List Json)
  | .posts _, doc => do
    let get ← members? [slot "data"] doc
    let data ← optional (fun inner => do
      let get ← members? [omissible "children"] inner
      defaulted [] (listOf? some) (get "children")) (get "data")
    some (data.getD [])
  | .articles, doc => do
    let get ← members? [slot "status", slot "message", slot "articles"] doc
    let status ← optional string? (get "status")
    let _ ← optional string? (get "message")
    let articles ← optional (listOf? some) (get "articles")
    if status = some "error" then none else some (articles.getD [])
  | .launches, doc => do
    let get ← members? [slot "data", omissible "errors"] doc
    let data ← optional (fun inner => do
      let get ← members? [slot "posts"] inner
      optional (fun connection => do
        let get ← members? [omissible "edges"] connection
        defaulted [] (listOf? some) (get "edges")) (get "posts")) (get "data")
    let errors ← defaulted [] (listOf? launchError?) (get "errors")
    match data, errors with
    | none, _ :: _ => none
    | none, [] => some []
    | some edges, _ => some (edges.getD [])
  | .rounds _, doc => do
    let get ← members? [slot "status", slot "comment", slot "result"] doc
    let status ← required string? (get "status")
    let _ ← optional string? (get "comment")
    let result ← optional (listOf? some) (get "result")
    if status = "OK" then some (result.getD []) else none
  | _, doc => listOf? some doc

-- What an element of the list is as an item. The repository and the gym are those that were asked for.
def item? : Catalog → Json → Option RawItem
  | .repository .releases repo, doc => (Release.ofJson? doc).map fun r => .release { r with repo }
  | .repository .events _, doc => (RepoEvent.ofJson? 2 doc).map .event
  | .posts _, doc => (redditChild? doc).map .reddit
  | .articles, doc => (NewsArticle.ofJson? doc).map .news
  | .competitions, doc => (Competition.ofJson? doc).map .competition
  | .launches, doc => (edge? Launch.ofJson? doc).map .launch
  | .devArticles, doc => (DevArticle.ofJson? doc).map .article
  | .rounds gym, doc => (Round.ofJson? doc).map fun r => .round { r with gym }

-- A body and its items: none in a blank body or `null`, else one for each element, in the order of the elements.
inductive Reads (catalog : Catalog) (body : String) : List RawItem → Prop
  | nothing (blank : Text.trimmed body = "" ∨ Text.trimmed body = "null") : Reads catalog body []
  | listed (kept : ¬(Text.trimmed body = "" ∨ Text.trimmed body = "null"))
      (parsed : Json.parse? (Text.trimmed body) = some doc) (located : catalog.elements? doc = some elements)
      (each : List.Forall₂ (fun element item => catalog.item? element = some item) elements items) :
      Reads catalog body items

end Catalog

-- What one request asks for: a list, or the page of contests at a base address.
inductive Topic
  | list (catalog : Catalog)
  | contests (base : String)

namespace Topic

-- The rows of the page, each a contest; they are counted from 0.
def Reads : Topic → String → List RawItem → Prop
  | .list catalog, body, items => catalog.Reads body items
  | .contests base, body, items => ∃ rows, Contest.tableOf? (Html.document body) = some rows ∧
      List.Forall₂ (fun row item => (Contest.ofRow base row.2 row.1).map .contest = .ok item) rows.zipIdx items

-- The request goes to the service at a base address and names what is asked for.
def IsNamed (base : String) : Topic → Call → Prop
  | .list (.repository stream repo), call =>
    call.address = base ++ "/repos/" ++ repo ++ "/" ++ match stream with
      | .releases => "releases"
      | .events => "events"
  | .list (.posts subreddit), call => ∃ sort, call.address = base ++ "/r/" ++ subreddit ++ "/" ++ sort ++ ".json"
  | .list .articles, call => call.address = base ++ "/v2/everything"
  | .list .competitions, call => call.address = base ++ "/api/v1/competitions/list"
  | .list .launches, call => call.address = base ++ "/v2/api/graphql"
  | .list .devArticles, call => call.address = base ++ "/api/articles"
  | .list (.rounds gym), call =>
    call.address = base ++ "/api/contest.list" ∧ call.query = [("gym", if gym then "true" else "false")]
  | .contests _, call => call.address = base ++ "/contests/"

end Topic

-- What a run asks a source for, in its order. A run that names a subreddit asks for that one only.
def SourceSpec.topics (run : Run) : SourceSpec → List Topic
  | .githubReleases repos _ _ => repos.map fun repo => .list (.repository .releases repo)
  | .githubEvents repos _ _ => repos.map fun repo => .list (.repository .events repo)
  | .reddit subreddits _ _ _ =>
    match run.subreddit with
    | some subreddit => [.list (.posts subreddit)]
    | none => subreddits.map fun subreddit => .list (.posts subreddit)
  | .newsApi .. => [.list .articles]
  | .kaggle .. => [.list .competitions]
  | .productHunt .. => [.list .launches]
  | .devTo .. => [.list .devArticles]
  | .codeforces gym _ => [.list (.rounds (run.gym.getD gym))]
  | .rss _ => []
  | .atcoder base => [.contests (trimBase (base.getD Atcoder.origin))]

-- The address of the service that is configured, or its own.
def SourceSpec.base : SourceSpec → String
  | .githubReleases _ _ base | .githubEvents _ _ base => trimBase (base.getD Github.origin)
  | .reddit _ _ _ base => trimBase (base.getD Reddit.origin)
  | .newsApi _ _ _ base => trimBase (base.getD News.origin)
  | .kaggle _ _ _ base => trimBase (base.getD Kaggle.origin)
  | .productHunt _ _ base => trimBase (base.getD ProductHunt.origin)
  | .devTo _ _ base => trimBase (base.getD DevTo.origin)
  | .codeforces _ base => trimBase (base.getD Codeforces.origin)
  | .rss _ => ""
  | .atcoder base => trimBase (base.getD Atcoder.origin)

-- A listing that asks for a topic at a base address, and takes just the items that the topic has in a body.
structure Listing.For (base : String) (listing : Listing) (topic : Topic) : Prop where
  named : topic.IsNamed base listing.call
  reads : ∀ body items, listing.read body = .ok items ↔ topic.Reads body items

theorem listedItems_eq (what : String) (read : Json → Option α) (wrap : α → RawItem) (body : String) :
    listedItems what read wrap body =
      envelopedItems what (listOf? read) (fun xs => .ok (xs.map wrap)) body := by
  unfold listedItems envelopedItems
  rcases documentOf what (listOf? read) body with e | _ | xs <;> rfl

-- A reader that brings the items of a document as its elements does so for a body.
theorem envelopedItems_reads {read : Json → Option α} {contents : α → Except FetchError (List RawItem)}
    {catalog : Catalog} (each : ∀ doc, ((read doc).bind fun envelope => (contents envelope).toOption) =
      (catalog.elements? doc).bind fun elements => elements.mapM catalog.item?) (what body : String)
    (items : List RawItem) : envelopedItems what read contents body = .ok items ↔ catalog.Reads body items := by
  by_cases blank : Text.trimmed body = "" ∨ Text.trimmed body = "null"
  · have none : envelopedItems what read contents body = .ok [] := by
      simp [envelopedItems, documentOf, readDocument?, blank, Except.bind]
    rw [none]
    constructor
    · rintro ⟨⟩
      exact .nothing blank
    · rintro (_ | ⟨kept, _, _, _⟩)
      · rfl
      · exact absurd blank kept
  · have whole : (envelopedItems what read contents body).toOption =
        (Json.parse? (Text.trimmed body)).bind fun doc =>
          (catalog.elements? doc).bind fun elements => elements.mapM catalog.item? := by
      simp only [envelopedItems, documentOf, readDocument?, blank, if_false, ← each]
      cases Json.parse? (Text.trimmed body) with
      | none => rfl
      | some doc =>
        rw [Option.bind_some, Option.bind_some]
        cases read doc <;> rfl
    have shown : envelopedItems what read contents body = .ok items ↔
        (envelopedItems what read contents body).toOption = some items := by
      cases envelopedItems what read contents body <;> simp [Except.toOption]
    rw [shown, whole]
    constructor
    · intro brought
      obtain ⟨doc, parsed, brought⟩ := Option.bind_eq_some_iff.mp brought
      obtain ⟨elements, located, brought⟩ := Option.bind_eq_some_iff.mp brought
      exact .listed blank parsed located (mapM_eq_some_iff.mp brought)
    · rintro (empty | ⟨_, parsed, located, each⟩)
      · exact absurd empty blank
      · rw [parsed, Option.bind_some, located]
        exact mapM_eq_some_iff.mpr each

-- A plain list.
theorem listedItems_reads {read : Json → Option α} {wrap : α → RawItem} {catalog : Catalog}
    (located : catalog.elements? = listOf? some) (meant : catalog.item? = fun doc => (read doc).map wrap)
    (what body : String) (items : List RawItem) :
    listedItems what read wrap body = .ok items ↔ catalog.Reads body items := by
  rw [listedItems_eq]
  refine envelopedItems_reads (fun doc => ?_) what body items
  rw [listOf?_through, Option.bind_assoc, located, meant]
  congr 1
  funext elements
  rw [mapM_wrapped]
  cases elements.mapM read <;> rfl

theorem News.contents_each (doc : Json) : ((NewsPage.ofJson? doc).bind fun page => (contents page).toOption) =
    (Catalog.articles.elements? doc).bind fun elements => elements.mapM Catalog.articles.item? := by
  have meant : Catalog.articles.item? = fun doc => (NewsArticle.ofJson? doc).map .news := rfl
  simp only [NewsPage.ofJson?, Catalog.elements?, meant, Option.bind_eq_bind, Option.bind_assoc,
    optional_through (listOf?_through NewsArticle.ofJson?), Option.bind_some, contents]
  congr 1; funext get
  congr 1; funext status
  congr 1; funext message
  congr 1; funext located
  by_cases failed : status = some "error"
  · simp [failed, Except.toOption]
  · simp only [failed, if_false]
    exact located_wrapped NewsArticle.ofJson? RawItem.news located

theorem Reddit.posts_each (subreddit : String) (doc : Json) :
    ((redditListing? doc).bind fun posts => (Except.ok (ε := FetchError) (posts.map .reddit)).toOption) =
      ((Catalog.posts subreddit).elements? doc).bind fun elements => elements.mapM (Catalog.posts subreddit).item? := by
  have meant : (Catalog.posts subreddit).item? = fun doc => (redditChild? doc).map .reddit := rfl
  have children (inner : Json) : redditChildren? inner = (do
      let get ← members? [omissible "children"] inner
      defaulted [] (listOf? some) (get "children")).bind fun elements => elements.mapM redditChild? := by
    simp only [redditChildren?, Option.bind_eq_bind, Option.bind_assoc]
    congr 1; funext get
    exact defaulted_through (listOf?_through redditChild?) rfl _
  simp only [redditListing?, Catalog.elements?, meant, Option.bind_eq_bind, Option.bind_assoc,
    optional_through children, Option.bind_some]
  congr 1; funext get
  congr 1; funext located
  exact located_wrapped redditChild? RawItem.reddit located

theorem ProductHunt.contents_each (doc : Json) : ((LaunchPage.ofJson? doc).bind fun page => (contents page).toOption) =
    (Catalog.launches.elements? doc).bind fun elements => elements.mapM Catalog.launches.item? := by
  have meant : Catalog.launches.item? = fun doc => (edge? Launch.ofJson? doc).map .launch := rfl
  have edges (doc : Json) : connection? Launch.ofJson? doc = (do
      let get ← members? [omissible "edges"] doc
      defaulted [] (listOf? some) (get "edges")).bind fun elements => elements.mapM (edge? Launch.ofJson?) := by
    simp only [connection?, Option.bind_eq_bind, Option.bind_assoc]
    congr 1; funext get
    exact defaulted_through (listOf?_through (edge? Launch.ofJson?)) rfl _
  have posts (doc : Json) : launchData? doc = (do
      let get ← members? [slot "posts"] doc
      optional (fun connection => do
        let get ← members? [omissible "edges"] connection
        defaulted [] (listOf? some) (get "edges")) (get "posts")).bind
          (Option.mapM fun elements => elements.mapM (edge? Launch.ofJson?)) := by
    simp only [launchData?, Option.bind_eq_bind, Option.bind_assoc]
    congr 1; funext get
    exact optional_through edges _
  simp only [LaunchPage.ofJson?, Catalog.elements?, meant, Option.bind_eq_bind, Option.bind_assoc,
    optional_through posts, Option.bind_some, contents]
  congr 1; funext get
  congr 1; funext located
  cases located with
  | none =>
    simp only [Option.mapM_none, Option.pure_def, Option.bind_some]
    congr 1; funext errors
    cases errors <;> rfl
  | some edges =>
    cases defaulted [] (listOf? launchError?) (get "errors") with
    | none => simp
    | some errors =>
      rw [Option.mapM_some, Option.bind_some, Option.bind_some, ← located_wrapped]
      cases edges.mapM fun elements => elements.mapM (edge? Launch.ofJson?) <;> rfl

theorem Codeforces.contents_each (gym : Bool) (doc : Json) :
    ((RoundList.ofJson? doc).bind fun list => (contents gym list).toOption) =
      ((Catalog.rounds gym).elements? doc).bind fun elements => elements.mapM (Catalog.rounds gym).item? := by
  have meant : (Catalog.rounds gym).item? = fun doc => (Round.ofJson? doc).map fun r => .round { r with gym } := rfl
  simp only [RoundList.ofJson?, Catalog.elements?, meant, Option.bind_eq_bind, Option.bind_assoc,
    optional_through (listOf?_through Round.ofJson?), Option.bind_some, contents]
  congr 1; funext get
  congr 1; funext status
  congr 1; funext comment
  congr 1; funext located
  by_cases good : status = "OK"
  · simp only [good, if_true]
    exact located_wrapped Round.ofJson? (fun r => RawItem.round { r with gym }) located
  · simp [good, Except.toOption]

theorem Contest.ofRows_each (base : String) (wrap : Contest → α) {index : Nat} {rows : List Row} {items : List α} :
    (ofRows base index rows).map (List.map wrap) = .ok items ↔
      List.Forall₂ (fun row item => (ofRow base row.2 row.1).map wrap = .ok item) (rows.zipIdx index) items := by
  induction rows generalizing index items with
  | nil =>
    rw [List.zipIdx_nil, List.forall₂_nil_left_iff, Contest.ofRows, Except.map, Except.ok.injEq]
    exact eq_comm
  | cons row rest ih =>
    rw [List.zipIdx_cons, List.forall₂_cons_left_iff, Contest.ofRows]
    simp only [← ih]
    cases Contest.ofRow base index row with
    | error fault => simp [Except.map]
    | ok contest =>
      cases Contest.ofRows base (index + 1) rest with
      | error fault => simp [Except.map]
      | ok others =>
        constructor
        · rintro ⟨⟩
          exact ⟨_, _, rfl, rfl, rfl⟩
        · rintro ⟨_, _, ⟨⟩, ⟨⟩, rfl⟩
          rfl

theorem Atcoder.contents_reads (pageUrl base body : String) (items : List RawItem) :
    contents pageUrl base body = .ok items ↔ (Topic.contests base).Reads body items := by
  unfold contents Contest.ofPage
  simp only [Topic.Reads]
  cases Contest.tableOf? (Html.document body) with
  | none => simp [Contest.ofTable]
  | some rows =>
    simp only [Option.some.injEq, exists_eq_left', ← Contest.ofRows_each, Contest.ofTable]
    cases Contest.ofRows base 0 rows <;> simp [Except.map]

section For

variable (client : Client) (base : String) (run : Run)

theorem Github.listing_for (token : Option String) (stream : Stream) (repo : String) :
    (listing client base token stream run repo).For base (.list (.repository stream repo)) where
  named := rfl
  reads := by
    dsimp only [listing, Stream.read]
    cases stream with
    | releases => exact listedItems_reads rfl rfl _
    | events => exact listedItems_reads rfl rfl _

theorem Reddit.listing_for (sort : String) (limit : Nat) (subreddit : String) :
    (listing client base sort limit run subreddit).For base (.list (.posts subreddit)) where
  named := ⟨sort, rfl⟩
  reads := by
    dsimp only [listing]
    exact envelopedItems_reads (posts_each subreddit) _

theorem News.listing_for (key configured : String) (pageSize : Nat) :
    (listing client base key configured pageSize run).For base (.list .articles) where
  named := rfl
  reads := by
    dsimp only [listing]
    exact envelopedItems_reads contents_each _

theorem Kaggle.listing_for (user key : String) (configured : Option String) :
    (listing client base user key configured run).For base (.list .competitions) where
  named := rfl
  reads := by
    dsimp only [listing]
    exact listedItems_reads rfl rfl _

theorem ProductHunt.listing_for (token : String) (first : Nat) :
    (listing client base token first run).For base (.list .launches) where
  named := rfl
  reads := by
    dsimp only [listing]
    exact envelopedItems_reads contents_each _

theorem DevTo.listing_for (configured : Option String) (pageSize : Nat) :
    (listing client base configured pageSize run).For base (.list .devArticles) where
  named := rfl
  reads := by
    dsimp only [listing]
    exact listedItems_reads rfl rfl _

theorem Codeforces.listing_for (gym : Bool) : (listing client base gym).For base (.list (.rounds gym)) where
  named := ⟨rfl, rfl⟩
  reads := by
    dsimp only [listing]
    exact envelopedItems_reads (contents_each gym) _

theorem Atcoder.listing_for : (listing client base).For base (.contests base) where
  named := rfl
  reads := contents_reads _ base

end For

-- The requests of a run, one for each topic and in the order of the topics.
def SourceSpec.listings (client : Client) (run : Run) : SourceSpec → List Listing
  | .githubReleases repos token base =>
    repos.map (Github.listing client (trimBase (base.getD Github.origin)) token .releases run)
  | .githubEvents repos token base =>
    repos.map (Github.listing client (trimBase (base.getD Github.origin)) token .events run)
  | .reddit subreddits sort limit base =>
    (Reddit.subreddits subreddits run).map
      (Reddit.listing client (trimBase (base.getD Reddit.origin)) sort limit run)
  | .newsApi apiKey query pageSize base =>
    [News.listing client (trimBase (base.getD News.origin)) apiKey query pageSize run]
  | .kaggle username key search base =>
    [Kaggle.listing client (trimBase (base.getD Kaggle.origin)) username key search run]
  | .productHunt token first base =>
    [ProductHunt.listing client (trimBase (base.getD ProductHunt.origin)) token first run]
  | .devTo tag perPage base => [DevTo.listing client (trimBase (base.getD DevTo.origin)) tag perPage run]
  | .codeforces gym base =>
    [Codeforces.listing client (trimBase (base.getD Codeforces.origin)) (run.gym.getD gym)]
  | .rss _ => []
  | .atcoder base => [Atcoder.listing client (trimBase (base.getD Atcoder.origin))]

theorem forall₂_map {related : α → β → Prop} {left : γ → α} {right : γ → β} (each : ∀ x, related (left x) (right x))
    (xs : List γ) : List.Forall₂ related (xs.map left) (xs.map right) :=
  List.forall₂_map_left_iff.mpr (List.forall₂_map_right_iff.mpr (List.forall₂_same.mpr fun x _ => each x))

theorem SourceSpec.listings_for (spec : SourceSpec) (client : Client) (run : Run) :
    List.Forall₂ (Listing.For spec.base) (spec.listings client run) (spec.topics run) := by
  cases spec with
  | githubReleases repos token base => exact forall₂_map (Github.listing_for client _ run token .releases) repos
  | githubEvents repos token base => exact forall₂_map (Github.listing_for client _ run token .events) repos
  | reddit subreddits sort limit base =>
    unfold listings topics Reddit.subreddits
    cases run.subreddit with
    | none => exact forall₂_map (Reddit.listing_for client _ run sort limit) subreddits
    | some subreddit => exact .cons (Reddit.listing_for client _ run sort limit subreddit) .nil
  | newsApi apiKey query pageSize base => exact .cons (News.listing_for client _ run apiKey query pageSize) .nil
  | kaggle username key search base => exact .cons (Kaggle.listing_for client _ run username key search) .nil
  | productHunt token first base => exact .cons (ProductHunt.listing_for client _ run token first) .nil
  | devTo tag perPage base => exact .cons (DevTo.listing_for client _ run tag perPage) .nil
  | codeforces gym base => exact .cons (Codeforces.listing_for client _ _) .nil
  | rss feeds => exact .nil
  | atcoder base => exact .cons (Atcoder.listing_for client _) .nil

end Harvester
