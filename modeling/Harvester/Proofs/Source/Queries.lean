import Harvester.Proofs.Http.Address
import Harvester.Proofs.Http.Exchange
import Harvester.Proofs.Source.Reports
namespace Harvester

open Http

-- A number that a run gives, else the configured one.
def numberText (given : Option Long) (configured : Nat) : String :=
  match given with
  | some n => toString n.value
  | none => toString configured

-- A pair that is there only with a value.
def whenSet (name : String) (value : Option String) : List (String × String) :=
  match value with
  | some text => [(name, text)]
  | none => []

-- The names and values by which three of the sources ask at a base address, in their order. A parameter of the run goes
-- before what is configured, and the first page is asked for where the run names none.
inductive SourceSpec.Asks (params : Parameters) (base : String) : SourceSpec → List (String × String) → Prop
  | articles (written : isHeaderValue apiKey = true) : Asks params base (.newsApi apiKey query pageSize (some base))
    ([("q", (params.getText? "query").getD query), ("pageSize", numberText (params.getLong? "perPage") pageSize),
      ("page", numberText (params.getLong? "page") 1), ("sortBy", "publishedAt")] ++
        whenSet "from" (params.getText? "from"))
  | competitions : Asks params base (.kaggle username key search (some base))
    (("page", numberText (params.getLong? "page") 1) :: whenSet "search" ((params.getText? "query").or search))
  | devArticles : Asks params base (.devTo tag perPage (some base))
    ([("per_page", numberText (params.getLong? "perPage") perPage), ("page", numberText (params.getLong? "page") 1)] ++
      whenSet "tag" ((params.getText? "tag").or tag))

variable {spec : SourceSpec} {client : Client} {run : Run} {network : Network} {call : Call}
  {base path : String} {url : Url} {pairs : List (String × String)}

theorem pageText_eq (run : Run) : pageText run = numberText (run.params.getLong? "page") 1 := by
  unfold pageText Run.page
  cases run.params.getLong? "page" <;> rfl

theorem sizeText_eq (run : Run) (configured : Nat) :
    sizeText run configured = numberText (run.params.getLong? "perPage") configured := by
  unfold sizeText Run.perPage
  cases run.params.getLong? "perPage" <;> rfl

theorem whenSet_eq (name : String) (value : Option String) :
    (value.map fun text => (name, text)).toList = whenSet name value := by
  cases value <;> rfl

theorem isHeaderValue_append (s t : String) : isHeaderValue (s ++ t) = (isHeaderValue s && isHeaderValue t) := by
  rw [isHeaderValue, String.toList_append, List.all_append]
  rfl

theorem isHeaderValue_base64 (bytes : List UInt8) : isHeaderValue (String.ofList (Text.base64 bytes)) = true := by
  rw [isHeaderValue, String.toList_ofList]
  have digit (n : Nat) : ((Text.base64Digit n).toNat ≥ 0x20 && (Text.base64Digit n).toNat != 0x7F ||
      Text.base64Digit n == '\t') = true := by
    rcases Nat.lt_or_ge n 64 with small | large
    · revert n
      decide
    · have last : Text.base64Digit n = '/' := by
        rw [Text.base64Digit, if_neg (by omega), if_neg (by omega), if_neg (by omega), if_neg (by omega)]
      rw [last]
      rfl
  fun_induction Text.base64 bytes with
  | case1 => rfl
  | case2 => simp only [List.all_cons, digit]; rfl
  | case3 => simp only [List.all_cons, digit]; rfl
  | case4 _ _ _ _ _ ih => simp only [List.all_cons, digit, ih]; rfl

-- Whatever the name and the password are, they can be written into the header.
theorem basic_written (user password : String) : isHeaderValue (basic user password).2 = true := by
  rw [basic, isHeaderValue_append, isHeaderValue_base64]
  rfl

theorem Client.get_isWorded (named : isHeaderValue client.agent = true) (address : String)
    (query more : List (String × String)) :
    (client.get address query more).isWorded = more.all fun header => isHeaderValue header.2 := by
  have accepted : isHeaderValue "*/*" = true := by decide
  rw [Call.isWorded, Client.get, List.all_append, Client.headers, List.all_cons, List.all_cons, accepted, named]
  rfl

-- The request of a call goes out once where the other side is there and the address can be built, else not at all.
theorem Http.Network.send_plain (network : Network) (built : call.url? = some url) (plain : url.secure = false) :
    (network.send call).2.sent = network.sent ++ if network.reachable then [call.request url] else [] := by
  cases reachable : network.reachable with
  | false => simp [Network.send, built, reachable]
  | true =>
    have carried : network.carries call = true := by simp [Network.carries, reachable, built, plain]
    rw [Network.send_line carried built]
    cases network.answers <;> rfl

theorem Listing.gather_single (listing : Listing) (network : Network) :
    (Listing.gather [listing] network).2.2 = (network.send listing.call).2 := by
  simp only [Listing.gather, Listing.ask]
  rcases network.send listing.call with ⟨e | reply, after⟩
  · rfl
  · simp only []
    cases reply.success.bind listing.read <;> rfl

theorem SourceSpec.fetch_single_sent {listing : Listing} (listed : (spec.source client).provider ≠ .rss)
    (asks : spec.listings client run = [listing]) (network : Network) :
    ((spec.source client).fetch run network).2 = (network.send listing.call).2 := by
  rw [source_fetch spec client listed, ← Listing.gather_single]
  simp only [Source.ofListings, asks]
  split <;> rename_i shown <;> rw [shown]

namespace SourceSpec

-- Each of the three asks once, with the pairs it means, below its base address.
theorem Asks.listing (asks : spec.Asks run.params base pairs) (named : isHeaderValue client.agent = true) :
    (spec.source client).provider ≠ .rss ∧ ∃ listing, spec.listings client run = [listing] ∧
      listing.call.isWorded = true ∧ listing.call.query = pairs ∧
      ∃ path, Url.IsTail path.toList ∧ listing.call.address = trimBase base ++ path := by
  cases asks with
  | articles written =>
    have apart : Provider.newsApi ≠ .rss := by decide
    refine ⟨apart, _, rfl, ?_, ?_, "/v2/everything", by decide, rfl⟩
    · refine (Client.get_isWorded named _ _ _).trans ?_
      rw [List.all_cons, written]
      rfl
    · simp only [News.listing, Client.get, News.query, pageText_eq, sizeText_eq, whenSet_eq]
      rfl
  | competitions =>
    have apart : Provider.kaggle ≠ .rss := by decide
    refine ⟨apart, _, rfl, ?_, ?_, "/api/v1/competitions/list", by decide, rfl⟩
    · refine (Client.get_isWorded named _ _ _).trans ?_
      rw [List.all_cons, basic_written]
      rfl
    · simp only [Kaggle.listing, Client.get, Kaggle.query, pageText_eq, whenSet_eq]
      rfl
  | devArticles =>
    have apart : Provider.devTo ≠ .rss := by decide
    refine ⟨apart, _, rfl, ?_, ?_, "/api/articles", by decide, rfl⟩
    · exact Client.get_isWorded named _ _ _
    · simp only [DevTo.listing, Client.get, DevTo.query, pageText_eq, sizeText_eq, whenSet_eq]
      rfl

-- Whatever texts are configured and supplied, the one request that goes out asks by the pairs that are meant, and by no
-- others.
theorem Asks.request_pairs (asks : spec.Asks run.params base pairs) (parsed : Url.parse? base = some url)
    (plain : url.secure = false) (bare : Url.IsBare base.toList) (named : isHeaderValue client.agent = true)
    (network : Network) : ∃ requests, ((spec.source client).fetch run network).2.sent = network.sent ++ requests ∧
      requests.length ≤ 1 ∧ (∀ request ∈ requests, request.pairs = pairs) ∧
      (network.reachable = true → (∀ last ∈ base.toList.getLast?, Url.isOuter last = false) → requests.length = 1) := by
  obtain ⟨listed, listing, single, worded, query, path, tail, address⟩ := asks.listing named
  obtain ⟨kept, goes⟩ := Url.parse?_joined parsed bare tail
  have built : listing.call.url? = (Url.parse? (trimBase base ++ path)).map fun url => url.withPairs pairs := by
    rw [Call.url?, worded, if_pos rfl, address, query]
  rw [fetch_single_sent listed single]
  cases joined : Url.parse? (trimBase base ++ path) with
  | none =>
    rw [joined, Option.map_none] at built
    refine ⟨[], by simp [Network.send, built], Nat.zero_le 1, nofun, fun _ last => ?_⟩
    have some := goes last
    rw [joined] at some
    cases some
  | some other =>
    obtain ⟨secure, none⟩ := kept other joined
    rw [joined, Option.map_some] at built
    have plainToo : (other.withPairs pairs).secure = false := by rw [Url.withPairs_secure, secure, plain]
    refine ⟨_, Network.send_plain network built plainToo, ?_, ?_, fun reachable _ => by rw [reachable]; rfl⟩
    · cases network.reachable with
      | false => exact Nat.zero_le 1
      | true => exact Nat.le_refl 1
    · intro request present
      split at present
      · rw [List.mem_singleton.mp present]
        exact Url.readPairs_withPairs joined none pairs
      · cases present

def arrivalsSpec (base : String) : SourceSpec := .newsApi "k" "rust" 20 (some base)

def arrivalsRun : Run :=
  ⟨"arrivals", .one, none, .ofList [("query", .text "a&b=c+d #1%"), ("from", .text "ü\n"), ("perPage", .text " 5 "),
    ("page", .text "first")]⟩

-- Signs that part a query stay within the value they were given in, and a page that is no number is not asked for.
theorem request_pairs_arrivals :
    let base := "http://news.test/x/"
    let client : Client := ⟨"harvester"⟩
    let network : Network := ⟨true, false, [], []⟩
    let pairs := [("q", "a&b=c+d #1%"), ("pageSize", "5"), ("page", "1"), ("sortBy", "publishedAt"), ("from", "ü\n")]
    ∃ url request, (arrivalsSpec base).Asks arrivalsRun.params base pairs ∧ Url.parse? base = some url ∧
      url.secure = false ∧ Url.IsBare base.toList ∧ isHeaderValue client.agent = true ∧
      (((arrivalsSpec base).source client).fetch arrivalsRun network).2.sent = [request] ∧ request.pairs = pairs := by
  intro base client network pairs
  let url : Url := ⟨false, "news.test".toList, none, "/x/".toList, none⟩
  have asks : (arrivalsSpec base).Asks arrivalsRun.params base pairs :=
    @SourceSpec.Asks.articles _ _ "k" "rust" 20 (by decide)
  have parsed : Url.parse? base = some url := by decide
  have bare : Url.IsBare base.toList := by decide
  have named : isHeaderValue client.agent = true := by decide
  obtain ⟨requests, sent, _, read, once⟩ := asks.request_pairs parsed rfl bare named network
  have ended : ∀ last ∈ base.toList.getLast?, Url.isOuter last = false := by
    have slash : base.toList.getLast? = some '/' := by decide
    intro last isLast
    cases slash.symm.trans isLast
    rfl
  obtain ⟨request, rfl⟩ := List.length_eq_one_iff.mp (once rfl ended)
  exact ⟨url, request, asks, parsed, rfl, bare, named, sent, read request List.mem_cons_self⟩

end SourceSpec

end Harvester
