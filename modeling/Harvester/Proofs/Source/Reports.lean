import Harvester.Proofs.Collector.Contract
import Harvester.Proofs.Source.Gathering
namespace Harvester

open Http

-- A document in which a service tells that it failed, and the text it gives for that. Errors next to posts that were
-- delivered are no failure.
inductive SourceSpec.Reports : SourceSpec → Json → String → Prop
  | articles (read : NewsPage.ofJson? doc = some page) (failed : page.status = some "error") :
    Reports (.newsApi apiKey query pageSize address) doc (page.message.getD "newsapi error")
  | rounds (read : RoundList.ofJson? doc = some list) (failed : list.status ≠ "OK") :
    Reports (.codeforces gym address) doc (list.comment.getD ("status " ++ list.status))
  | launches (read : LaunchPage.ofJson? doc = some page) (listed : page.errors = first :: more)
    (undelivered : page.data.join = none) : Reports (.productHunt token size address) doc first

-- Whether there is a record of data, with posts in it or not. Only the launches are asked for one.
def SourceSpec.hasData : SourceSpec → Json → Bool
  | .productHunt _ _ _, doc => (LaunchPage.ofJson? doc).any fun page => page.data.isSome
  | _, _ => false

-- The one request of a run goes out, and its answer tells of success, is whole and holds a document.
inductive SourceSpec.Hears (spec : SourceSpec) (client : Client) (run : Run) (network : Network) (doc : Json) : Prop
  | document (asks : spec.listings client run = [listing]) (carried : network.carries listing.call)
    (next : network.answers = answer :: rest) (body : answer.body? = some text)
    (parsed : Json.parse? (Text.trimmed text) = some doc) : Hears spec client run network doc

variable {α : Type} {spec : SourceSpec} {client : Client} {run : Run} {network : Network} {listing : Listing}
  {answer : Answer} {rest : List Answer} {doc : Json} {text report : String}

theorem envelopedItems_document {read : Json → Option α} {contents : α → Except FetchError (List RawItem)}
    (parsed : Json.parse? (Text.trimmed text) = some doc) (decoded : read doc = some envelope)
    (needed : read .null = none) (what : String) : envelopedItems what read contents text = contents envelope := by
  have filled : ¬(Text.trimmed text = "" ∨ Text.trimmed text = "null") := by
    rintro (blank | none)
    · have nothing : Json.parse? "" = none := by decide
      rw [blank, nothing] at parsed
      cases parsed
    · have nothing : Json.parse? "null" = some .null := by rfl
      rw [none, nothing] at parsed
      cases parsed
      rw [needed] at decoded
      cases decoded
  simp only [envelopedItems, documentOf, readDocument?, filled, if_false, parsed, Option.bind_some, decoded,
    Option.map_some]
  rfl

theorem Listing.ask_body (carried : network.carries listing.call) (next : network.answers = answer :: rest)
    (body : answer.body? = some text) : (listing.ask network).1 = listing.read text := by
  obtain ⟨url, built⟩ := Network.carries_url carried
  have asked : listing.ask network = network.ask listing.call listing.read := rfl
  have whole : answer.content url = .ok text := by
    have shown := answer.content_toOption url
    rw [body] at shown
    cases content : answer.content url with
    | error e => simp [content, Except.toOption] at shown
    | ok other => simpa [content, Except.toOption] using shown
  rw [asked, Network.ask_carried carried built next, whole]
  rfl

theorem SourceSpec.fetch_single (listed : (spec.source client).provider ≠ .rss)
    (asks : spec.listings client run = [listing]) (network : Network) :
    ((spec.source client).fetch run network).1.result = (listing.ask network).1.map fun items => ⟨items, 0⟩ := by
  rw [source_fetch spec client listed]
  simp only [Source.ofListings, asks, Listing.gather]
  rcases listing.ask network with ⟨e | items, after⟩
  · rfl
  · simp [Except.map]

namespace SourceSpec

-- What each of the three makes of a document that reports a failure.
theorem Reports.read (reports : spec.Reports doc report) (client : Client) (run : Run) :
    (spec.source client).provider ≠ .rss ∧ ∃ listing, spec.listings client run = [listing] ∧
      ∀ text, Json.parse? (Text.trimmed text) = some doc →
        listing.read text = if spec.hasData doc then .ok [] else .error (.remote report) := by
  cases reports with
  | articles read failed =>
    have apart : Provider.newsApi ≠ .rss := by decide
    refine ⟨apart, _, rfl, fun text parsed => ?_⟩
    simp only [News.listing, envelopedItems_document parsed read rfl, News.contents, failed, hasData]
    rfl
  | rounds read failed =>
    have apart : Provider.codeforces ≠ .rss := by decide
    refine ⟨apart, _, rfl, fun text parsed => ?_⟩
    simp only [Codeforces.listing, envelopedItems_document parsed read rfl, Codeforces.contents, failed, hasData]
    rfl
  | @launches doc page first more token size address read listed undelivered =>
    have apart : Provider.productHunt ≠ .rss := by decide
    refine ⟨apart, _, rfl, fun text parsed => ?_⟩
    obtain ⟨data, errors⟩ := page
    subst listed
    simp only [ProductHunt.listing, envelopedItems_document parsed read rfl, hasData, read, Option.any_some]
    cases data with
    | none => rfl
    | some posts =>
      cases undelivered
      rfl

theorem Reports.fetched (reports : spec.Reports doc report) (hears : spec.Hears client run network doc) :
    ((spec.source client).fetch run network).1.result =
      if spec.hasData doc then .ok ⟨[], 0⟩ else .error (.remote report) := by
  obtain ⟨listed, listing, asks, read⟩ := reports.read client run
  cases hears with
  | document asksToo carried next body parsed =>
    cases asks.symm.trans asksToo
    rw [fetch_single listed asks, Listing.ask_body carried next body, read _ parsed]
    split <;> rfl

-- A failure that a service reports in a good answer is the error of the fetch, with the service's own text, and the run
-- has failed; apart from launches with a record of data in which there are no posts: that is taken for no launches.
theorem reported_failure (reports : spec.Reports doc report) (client : Client) :
    (∀ run network, spec.Hears client run network doc → ((spec.source client).fetch run network).1.result =
      if spec.hasData doc then .ok ⟨[], 0⟩ else .error (.remote report)) ∧
    ∀ {σ : Type} (c : Collector σ) now job prior supplied defaults (w : World σ),
      let run := Run.following job prior (defaults.overlay supplied)
      c.jobs.get? job = some ⟨spec.source client, defaults⟩ →
      spec.Hears client run (Listener.announce c.listeners (.starting run) w).network doc →
      if spec.hasData doc then ∃ counts phases,
        (c.runJob now job prior supplied w).1 = .ok (.completed run counts phases) ∧ counts.fetched = 0
      else (c.runJob now job prior supplied w).1 = .ok (.failed run (.remote report) [.started, .fetching, .failed]) := by
  refine ⟨fun run network hears => reports.fetched hears, fun c now job prior supplied defaults w => ?_⟩
  intro run found hears
  have result : (c.fetchFor (spec.source client) run w).1 =
      if spec.hasData doc then .ok ⟨[], 0⟩ else .error (.remote report) := reports.fetched hears
  rw [Collector.runJob_registered found]
  split
  · rename_i has
    rw [if_pos has] at result
    rw [Collector.launch_fetched result, Collector.conclude_eq]
    exact ⟨_, _, rfl, rfl⟩
  · rename_i hasNot
    rw [if_neg hasNot] at result
    rw [Collector.launch_failed result]
    rfl

def launchSpec : SourceSpec := .productHunt "t" 20 (some "http://hunt.test")

def errorsOnly : String :=
  "\x7b\"data\": null, \"errors\": [\x7b\"message\": \"invalid_oauth_token\"\x7d]\x7d"

def errorsBesideData : String :=
  "\x7b\"data\": \x7b\"posts\": null\x7d, \"errors\": [\x7b\"message\": \"rate limited\"\x7d]\x7d"

def answeredWith (text : String) : Network := ⟨true, false, [.reply 200 (Text.utf8 text) true], []⟩

-- Without any data the failure is told, and the job has failed.
theorem reported_failure_refused :
    let client : Client := ⟨"harvester"⟩
    let run := Run.following "launches" none (Keyed.empty.overlay Keyed.empty)
    let c : Collector Shelf :=
      ⟨Keyed.empty.insert "launches" ⟨launchSpec.source client, .empty⟩, Shelf.sink, [], .draft⟩
    let w := World.start (answeredWith errorsOnly) Shelf.empty
    ∃ doc, launchSpec.Reports doc "invalid_oauth_token" ∧ launchSpec.Hears client run w.network doc ∧
      ((launchSpec.source client).fetch run w.network).1.result = .error (.remote "invalid_oauth_token") ∧
      (c.runJob .epoch "launches" none .empty w).1 =
        .ok (.failed run (.remote "invalid_oauth_token") [.started, .fetching, .failed]) := by
  intro client run c w
  let doc : Json := .obj [("data", .null), ("errors", .arr [.obj [("message", .str "invalid_oauth_token")]])]
  have parsed : Json.parse? (Text.trimmed errorsOnly) = some doc := by rfl
  have reports : launchSpec.Reports doc "invalid_oauth_token" := .launches rfl rfl rfl
  have hears : launchSpec.Hears client run w.network doc :=
    .document rfl (by decide +kernel) rfl (by decide +kernel : _ = some errorsOnly) parsed
  have told := reported_failure reports client
  exact ⟨doc, reports, hears, told.1 run w.network hears, told.2 c .epoch "launches" none .empty .empty w rfl hears⟩

-- An answer whose data have no posts in them is taken for one without launches, whatever errors stand beside.
theorem reported_failure_overlooked :
    let client : Client := ⟨"harvester"⟩
    let run := Run.following "launches" none .empty
    let network := answeredWith errorsBesideData
    ∃ doc, launchSpec.Reports doc "rate limited" ∧ launchSpec.Hears client run network doc ∧
      ((launchSpec.source client).fetch run network).1.result = .ok ⟨[], 0⟩ := by
  intro client run network
  let doc : Json := .obj [("data", .obj [("posts", .null)]),
    ("errors", .arr [.obj [("message", .str "rate limited")]])]
  have parsed : Json.parse? (Text.trimmed errorsBesideData) = some doc := by rfl
  have reports : launchSpec.Reports doc "rate limited" := .launches rfl rfl rfl
  have hears : launchSpec.Hears client run network doc :=
    .document rfl (by decide +kernel) rfl (by decide +kernel : _ = some errorsBesideData) parsed
  exact ⟨doc, reports, hears, reports.fetched hears⟩

end SourceSpec

end Harvester
