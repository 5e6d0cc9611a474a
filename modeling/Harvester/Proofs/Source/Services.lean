import Harvester.Proofs.Source.Accounts
namespace Harvester

open Http

theorem Listing.unremarked_plain (call : Call) {read : String → Except FetchError (List RawItem)}
    (yields : Yields sourceType read) : Listing.Plain sourceType ⟨call, read, noRemarks⟩ :=
  ⟨yields, fun _ _ => rfl⟩

-- One listing and nothing else.
theorem Source.ofListing_accounted (provider : Provider) {sourceType : SourceType} {listing : Run → Listing}
    (plain : ∀ run, (listing run).Plain sourceType) :
    (Source.ofListings provider sourceType fun run => [listing run]).Accounted := by
  refine Source.ofListings_accounted provider fun run other present => ?_
  cases List.mem_singleton.mp present
  exact plain run

-- One listing for each of some names.
theorem Source.ofNamed_accounted (provider : Provider) {sourceType : SourceType} {names : Run → List String}
    {listing : Run → String → Listing} (plain : ∀ run name, (listing run name).Plain sourceType) :
    (Source.ofListings provider sourceType fun run => (names run).map (listing run)).Accounted := by
  refine Source.ofListings_accounted provider fun run other present => ?_
  obtain ⟨name, _, rfl⟩ := List.mem_map.mp present
  exact plain run name

theorem Github.read_yields (stream : Stream) (repo : String) : Yields .api (stream.read repo) := by
  cases stream with
  | releases => exact listedItems_yields (fun _ => by rfl) _ _
  | events => exact listedItems_yields (fun _ => by rfl) _ _

theorem Github.source_accounted (client : Client) (base : String) (repos : List String) (token : Option String)
    (stream : Stream) : (source client base repos token stream).Accounted :=
  Source.ofNamed_accounted .github fun _ repo => ⟨read_yields stream repo, fun _ _ => rfl⟩

theorem Reddit.source_accounted (client : Client) (base : String) (configured : List String) (sort : String)
    (limit : Nat) : (source client base configured sort limit).Accounted := by
  refine Source.ofNamed_accounted .reddit fun _ _ => Listing.unremarked_plain _ (envelopedItems_yields ?_ _ _)
  rintro posts _ ⟨⟩
  exact wrapped_ofType (fun _ => by rfl) posts

theorem News.contents_yields : Yields .api contents := by
  intro page items brought
  unfold contents at brought
  split at brought
  · cases brought
  · cases brought
    exact wrapped_ofType (fun _ => by rfl) _

theorem News.source_accounted (client : Client) (base key configured : String) (pageSize : Nat) :
    (source client base key configured pageSize).Accounted :=
  Source.ofListing_accounted .newsApi fun _ => Listing.unremarked_plain _ (envelopedItems_yields contents_yields _ _)

theorem Kaggle.source_accounted (client : Client) (base user key : String) (configured : Option String) :
    (source client base user key configured).Accounted :=
  Source.ofListing_accounted .kaggle fun _ => Listing.unremarked_plain _ (listedItems_yields (fun _ => by rfl) _ _)

theorem ProductHunt.contents_yields : Yields .api contents := by
  intro page items brought
  unfold contents at brought
  split at brought
  · cases brought
  · cases brought
    exact fun _ present => absurd present List.not_mem_nil
  · cases brought
    exact wrapped_ofType (fun _ => by rfl) _

theorem ProductHunt.source_accounted (client : Client) (base token : String) (first : Nat) :
    (source client base token first).Accounted :=
  Source.ofListing_accounted .productHunt fun _ => Listing.unremarked_plain _ (envelopedItems_yields contents_yields _ _)

theorem DevTo.source_accounted (client : Client) (base : String) (configured : Option String) (pageSize : Nat) :
    (source client base configured pageSize).Accounted :=
  Source.ofListing_accounted .devTo fun _ => Listing.unremarked_plain _ (listedItems_yields (fun _ => by rfl) _ _)

theorem Codeforces.contents_yields (gym : Bool) : Yields .api (contents gym) := by
  intro list items brought
  unfold contents at brought
  split at brought
  · cases brought
    exact wrapped_ofType (fun _ => by rfl) _
  · cases brought

theorem Codeforces.source_accounted (client : Client) (base : String) (gym : Bool) :
    (source client base gym).Accounted :=
  Source.ofListing_accounted .codeforces fun _ => Listing.unremarked_plain _ (envelopedItems_yields (contents_yields _) _ _)

theorem Atcoder.contents_yields (pageUrl base : String) : Yields .scrape (contents pageUrl base) := by
  intro page items brought
  unfold contents at brought
  split at brought
  · cases brought
    exact wrapped_ofType (fun _ => by rfl) _
  · cases brought

theorem Atcoder.source_accounted (client : Client) (base : String) : (source client base).Accounted :=
  Source.ofListing_accounted .atcoder fun _ => Listing.unremarked_plain _ (contents_yields _ _)

namespace Feeds

theorem failedNotes_total (feed : FeedSpec) (e : FetchError) (counter : Counter) :
    Note.total counter (failedNotes feed e) = if .feedFailures = counter then 1 else 0 := by
  simp [failedNotes]

-- Feeds fail one by one, and every failure is counted when it happens.
theorem gather_total (client : Client) (feeds : List FeedSpec) (network : Network) (counter : Counter) :
    Note.total counter (gather client feeds network).2.1 =
      if .feedFailures = counter then (gather client feeds network).1.failedFeeds else 0 := by
  induction feeds generalizing network with
  | nil => simp [gather]
  | cons feed rest ih =>
    rcases loaded : load client feed network with ⟨e | entries, after⟩
    · simp only [gather, loaded, Note.total_append, ih, failedNotes_total]
      split <;> omega
    · simp [gather, loaded, ih, parsedNotes]

theorem gather_ofType (client : Client) (feeds : List FeedSpec) (network : Network) :
    ∀ raw ∈ (gather client feeds network).1.items, raw.sourceType = .rss := by
  induction feeds generalizing network with
  | nil => exact fun _ present => absurd present List.not_mem_nil
  | cons feed rest ih =>
    rcases loaded : load client feed network with ⟨e | entries, after⟩
    · simp only [gather, loaded]
      exact ih after
    · simp only [gather, loaded]
      intro raw present
      exact (List.mem_append.mp present).elim (wrapped_ofType (fun _ => by rfl) entries raw) (ih after raw)

theorem source_accounted (client : Client) (feeds : List FeedSpec) : (source client feeds).Accounted := by
  intro run network
  have counted := gather_total client feeds network
  have ofType := gather_ofType client feeds network
  rcases gathered : gather client feeds network with ⟨batch, said, after⟩
  simp only [gathered] at counted ofType
  simp only [source, gathered]
  refine .brought batch (fun counter => ?_) ofType
  rw [Note.total_append, counted, fetchedNotes_total]
  cases counter <;> simp [Batch.share]

end Feeds

-- Whatever is configured.
theorem SourceSpec.source_accounted (client : Client) (spec : SourceSpec) : (spec.source client).Accounted := by
  cases spec with
  | githubReleases repos token base => exact Github.source_accounted client _ repos token .releases
  | githubEvents repos token base => exact Github.source_accounted client _ repos token .events
  | reddit subreddits sort limit base => exact Reddit.source_accounted client _ subreddits sort limit
  | newsApi apiKey query pageSize base => exact News.source_accounted client _ apiKey query pageSize
  | kaggle username key search base => exact Kaggle.source_accounted client _ username key search
  | productHunt token first base => exact ProductHunt.source_accounted client _ token first
  | devTo tag perPage base => exact DevTo.source_accounted client _ tag perPage
  | codeforces gym base => exact Codeforces.source_accounted client _ gym
  | rss feeds => exact Feeds.source_accounted client feeds
  | atcoder base => exact Atcoder.source_accounted client _

namespace Registry

def Accounted (registry : Registry) : Prop := ∀ job j, registry.get? job = some j → j.source.Accounted

theorem addAll_accounted (added : addAll http jobs registry said = .ok (built, more)) (accounted : registry.Accounted) :
    built.Accounted := by
  induction jobs generalizing registry said with
  | nil =>
    cases added
    exact accounted
  | cons job rest ih =>
    rw [addAll] at added
    split at added
    · cases named : http.client? with
      | none => simp [named] at added
      | some client =>
        rw [named] at added
        refine ih added fun other j found => ?_
        rw [Keyed.get?_insert] at found
        split at found
        · cases found
          exact SourceSpec.source_accounted client job.source
        · exact accounted other j found
    · exact ih added accounted

theorem build_accounted (built : build settings = .ok (registry, said)) : registry.Accounted :=
  addAll_accounted built nofun

end Registry
end Harvester
