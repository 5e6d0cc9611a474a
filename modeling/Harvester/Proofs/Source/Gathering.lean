import Harvester.Proofs.Source.Topics
namespace Harvester

open Http

-- A request that came through: its answer tells of success, is whole, and has a body that reads as items.
structure Exchange where
  listing : Listing
  url : Url
  status : Nat
  body : List UInt8
  items : List RawItem

namespace Exchange

def answer (x : Exchange) : Answer := .reply x.status x.body true

def request (x : Exchange) : Request := x.listing.call.request x.url

structure Good (network : Network) (x : Exchange) : Prop where
  built : x.listing.call.url? = some x.url
  carried : network.carries x.listing.call
  success : 200 ≤ x.status ∧ x.status < 300
  read : x.listing.read (Text.decodeBody (bodyOf x.status x.body)) = .ok x.items

-- The network behind some exchanges, with the answers that are left.
def past (network : Network) (exchanges : List Exchange) (rest : List Answer) : Network :=
  { network with answers := rest, sent := network.sent ++ exchanges.map request }

end Exchange

-- How a request can fail, and the error of each way.
inductive Listing.Fails (listing : Listing) (network : Network) : FetchError → Prop
  | unanswered (sent : (network.send listing.call).1 = .error e) : Fails listing network e
  | refused (sent : (network.send listing.call).1 = .ok reply) (bad : ¬(200 ≤ reply.status ∧ reply.status < 300)) :
      Fails listing network (.status reply.url reply.status)
  | broken (sent : (network.send listing.call).1 = .ok reply) (good : 200 ≤ reply.status ∧ reply.status < 300)
      (partly : reply.whole = false) : Fails listing network (.transport "the body broke off")
  | unreadable (sent : (network.send listing.call).1 = .ok reply) (good : 200 ≤ reply.status ∧ reply.status < 300)
      (whole : reply.whole = true) (unread : listing.read (Text.decodeBody reply.body) = .error e) :
      Fails listing network e

-- What comes of some listings, asked one after the other: the items of all of them, where all exchanges are good; else
-- the error of the first that fails, and behind its request, if it went out at all, nothing is sent.
inductive Gathered (network : Network) : List Listing → Except FetchError (List RawItem) → Network → Prop
  | all (exchanges : List Exchange) (good : ∀ x ∈ exchanges, x.Good network)
      (answered : network.answers = exchanges.map Exchange.answer ++ rest) :
      Gathered network (exchanges.map (·.listing)) (.ok (exchanges.flatMap (·.items)))
        (Exchange.past network exchanges rest)
  | first (exchanges : List Exchange) (good : ∀ x ∈ exchanges, x.Good network)
      (answered : network.answers = exchanges.map Exchange.answer ++ rest)
      (fails : failing.Fails (Exchange.past network exchanges rest) e) (once : tried.length ≤ 1)
      (left : ((Exchange.past network exchanges rest).send failing.call).2 =
        { network with answers := spare, sent := network.sent ++ exchanges.map Exchange.request ++ tried }) :
      Gathered network (exchanges.map (·.listing) ++ failing :: later) (.error e)
        { network with answers := spare, sent := network.sent ++ exchanges.map Exchange.request ++ tried }

theorem Listing.ask_cases (listing : Listing) (network : Network) :
    (∃ x rest, x.listing = listing ∧ x.Good network ∧ network.answers = x.answer :: rest ∧
      listing.ask network = (.ok x.items, Exchange.past network [x] rest)) ∨
    ∃ e, listing.Fails network e ∧ listing.ask network = (.error e, (network.send listing.call).2) := by
  rcases sent : network.send listing.call with ⟨e | reply, after⟩
  · exact .inr ⟨e, .unanswered (by rw [sent]), by rw [Listing.ask, sent]⟩
  · have asked : listing.ask network = (reply.success.bind listing.read, after) := by rw [Listing.ask, sent]
    have replied : (network.send listing.call).1 = .ok reply := by rw [sent]
    rw [asked]
    rcases reply.success_cases with ⟨bad, shown⟩ | ⟨good, ⟨partly, shown⟩ | ⟨whole, shown⟩⟩
    · exact .inr ⟨_, .refused replied bad, by rw [shown]; rfl⟩
    · exact .inr ⟨_, .broken replied good partly, by rw [shown]; rfl⟩
    · rw [shown]
      cases read : listing.read (Text.decodeBody reply.body) with
      | error e => exact .inr ⟨e, .unreadable replied good whole read, by rw [Except.bind, read]⟩
      | ok items =>
        obtain ⟨url, status, body, _, rest, built, carried, next, rfl, rfl⟩ := Network.send_reply sent
        cases whole
        exact .inl ⟨⟨listing, url, status, body, items⟩, rest, rfl, ⟨built, carried, good, read⟩, next,
          by rw [Except.bind, read]; rfl⟩

namespace Exchange

theorem Good.elsewhere {network : Network} {x : Exchange} (good : x.Good network) (answers : List Answer)
    (sent : List Request) : x.Good { network with answers, sent } := ⟨good.built, good.carried, good.success, good.read⟩

theorem past_nil (network : Network) : past network [] network.answers = network := by simp [past]

theorem past_past (network : Network) (x : Exchange) (exchanges : List Exchange) (rest spare : List Answer) :
    past (past network [x] rest) exchanges spare = past network (x :: exchanges) spare := by
  simp [past]

-- Whether an exchange is good does not depend on what was asked before it.
theorem good_cons {network : Network} {x : Exchange} {exchanges : List Exchange} (good : x.Good network)
    (others : ∀ y ∈ exchanges, y.Good (past network [x] rest)) : ∀ y ∈ x :: exchanges, y.Good network := by
  intro y present
  rcases List.mem_cons.mp present with rfl | later
  · exact good
  · exact (others y later).elsewhere network.answers network.sent

end Exchange

-- A good exchange in front of others changes only what is behind it.
theorem Gathered.cons {network after : Network} {x : Exchange} (good : x.Good network)
    (next : network.answers = x.answer :: rest)
    (gathered : Gathered (Exchange.past network [x] rest) listings result after) :
    Gathered network (x.listing :: listings) (result.map (x.items ++ ·)) after := by
  cases gathered with
  | all exchanges others answered =>
    rw [Exchange.past_past]
    refine .all (x :: exchanges) (Exchange.good_cons good others) ?_
    rw [next, List.map_cons, List.cons_append, ← answered]
    rfl
  | @first left spare tried failing later e exchanges others answered fails once sent =>
    rw [Exchange.past_past] at fails sent
    have behind : { Exchange.past network [x] rest with
        answers := spare, sent := (Exchange.past network [x] rest).sent ++ exchanges.map Exchange.request ++ tried } =
          { network with
            answers := spare, sent := network.sent ++ (x :: exchanges).map Exchange.request ++ tried } := by
      simp [Exchange.past]
    rw [behind] at sent ⊢
    refine .first (x :: exchanges) (Exchange.good_cons good others) ?_ fails once sent
    rw [next, List.map_cons, List.cons_append, ← answered]
    rfl

theorem Listing.gather_cases (listings : List Listing) (network : Network) :
    Gathered network listings (gather listings network).1 (gather listings network).2.2 := by
  induction listings generalizing network with
  | nil =>
    have gathered : Gathered network [] (.ok []) (Exchange.past network [] network.answers) :=
      .all [] (fun _ absent => absurd absent List.not_mem_nil) rfl
    rw [Exchange.past_nil] at gathered
    exact gathered
  | cons listing rest ih =>
    rcases listing.ask_cases network with ⟨x, left, rfl, good, next, asked⟩ | ⟨e, fails, asked⟩
    · have others := Gathered.cons good next (ih (Exchange.past network [x] left))
      simp only [gather, asked]
      rcases gathered : gather rest (Exchange.past network [x] left) with ⟨e | more, notes, last⟩
      · rw [gathered] at others
        exact others
      · rw [gathered] at others
        exact others
    -- The first request fails: no exchange is behind it, so the network it met is the one the run began with.
    · obtain ⟨tried, spare, once, left⟩ := Network.send_once listing.call network
      have none := Exchange.past_nil network
      have failed : Gathered network (listing :: rest) (.error e)
          { network with answers := spare, sent := network.sent ++ [] ++ tried } :=
        .first [] (fun _ absent => absurd absent List.not_mem_nil) rfl (by rw [none]; exact fails) once
          (by rw [none, left, List.map_nil, List.append_nil])
      rw [List.append_nil] at failed
      simp only [gather, asked]
      rw [left]
      exact failed

-- Every source but the feeds asks by listings.
theorem SourceSpec.source_fetch (spec : SourceSpec) (client : Client) (listed : (spec.source client).provider ≠ .rss)
    (run : Run) (network : Network) : (spec.source client).fetch run network =
      (Source.ofListings (spec.source client).provider (spec.source client).sourceType fun run =>
        spec.listings client run).fetch run network := by
  cases spec with
  | rss feeds => exact absurd rfl listed
  | _ => rfl

theorem Source.ofListings_gathered (provider : Provider) (sourceType : SourceType) (listings : Run → List Listing)
    (run : Run) (network : Network) : ∃ result,
      Gathered network (listings run) result ((Source.ofListings provider sourceType listings).fetch run network).2 ∧
      ((Source.ofListings provider sourceType listings).fetch run network).1.result =
        result.map fun items => ⟨items, 0⟩ := by
  have gathered := Listing.gather_cases (listings run) network
  simp only [Source.ofListings]
  rcases came : Listing.gather (listings run) network with ⟨e | items, notes, last⟩
  · rw [came] at gathered
    exact ⟨_, gathered, rfl⟩
  · rw [came] at gathered
    exact ⟨_, gathered, rfl⟩

namespace Registry

-- The rows a job may stand for.
def rows (jobs : List JobSettings) (job : String) : List JobSettings :=
  jobs.filter fun row => row.enabled && row.name == job

-- A job stands for the last row of its name that is switched on.
theorem addAll_row (added : addAll http jobs registry said = .ok (built, more)) (found : built.get? job = some j) :
    (∃ row client, (rows jobs job).getLast? = some row ∧ j.source = row.source.source client) ∨
      rows jobs job = [] ∧ registry.get? job = some j := by
  induction jobs generalizing registry said with
  | nil =>
    cases added
    exact .inr ⟨rfl, found⟩
  | cons row rest ih =>
    rw [addAll] at added
    cases on : row.enabled with
    | false =>
      rw [on] at added
      simpa [rows, on] using ih added
    | true =>
      rw [on, if_pos rfl] at added
      cases named : http.client? with
      | none => simp [named] at added
      | some client =>
        rw [named] at added
        rcases ih added with ⟨last, other, isLast, source⟩ | ⟨none, before⟩
        · refine .inl ⟨last, other, ?_, source⟩
          by_cases same : row.name = job
          · have listed : rows (row :: rest) job = row :: rows rest job := by simp [rows, on, same]
            rw [listed, List.getLast?_cons, isLast, Option.getD_some]
          · have passed : rows (row :: rest) job = rows rest job := by simp [rows, same]
            rw [passed, isLast]
        · rw [Keyed.get?_insert] at before
          split at before
          · rename_i same
            cases before
            have only : rows (row :: rest) job = row :: rows rest job := by simp [rows, on, same]
            exact .inl ⟨row, client, by rw [only, none]; rfl, rfl⟩
          · rename_i other
            have passed : rows (row :: rest) job = rows rest job := by simp [rows, other]
            exact .inr ⟨passed.trans none, before⟩

-- A source that asks by listings brings all of what it asked for, or nothing but the error of the first request that
-- failed.
theorem build_all_or_nothing (built : build settings = .ok (registry, said)) (found : registry.get? job = some j)
    (listed : j.source.provider ≠ .rss) (run : Run) (network : Network) :
    ∃ row listings result, (rows settings.jobs job).getLast? = some row ∧
      List.Forall₂ (Listing.For row.source.base) listings (row.source.topics run) ∧
      Gathered network listings result (j.source.fetch run network).2 ∧
      (j.source.fetch run network).1.result = result.map fun items => ⟨items, 0⟩ := by
  rcases addAll_row built found with ⟨row, client, isLast, source⟩ | ⟨_, absent⟩
  · rw [source] at listed ⊢
    rw [SourceSpec.source_fetch _ _ listed]
    obtain ⟨result, gathered, shown⟩ := Source.ofListings_gathered (row.source.source client).provider
      (row.source.source client).sourceType (fun run => row.source.listings client run) run network
    exact ⟨row, _, result, isLast, row.source.listings_for client run, gathered, shown⟩
  · rw [Keyed.get?_empty] at absent
    cases absent

def watched : JobSettings :=
  ⟨"watch", true, .empty, .githubReleases ["a/one", "a/two"] none (some "http://git.test")⟩

def watching : Settings := { Settings.standard with jobs := [watched] }

-- The release that the first repository brings is given up with the second.
theorem build_all_or_nothing_refused :
    let run := Run.following "watch" none .empty
    let network : Network := ⟨true, false, [.reply 200 (Text.utf8 "[\x7b\"id\": 1\x7d]") true, .reply 500 [] true], []⟩
    ∃ registry said j, build watching = .ok (registry, said) ∧ registry.get? "watch" = some j ∧
      ∃ listings e, List.Forall₂ (Listing.For "http://git.test") listings
          [.list (.repository .releases "a/one"), .list (.repository .releases "a/two")] ∧
        Gathered network listings (.error e) (j.source.fetch run network).2 ∧
        (j.source.fetch run network).1.result = .error e := by
  intro run network
  let j : Job :=
    ⟨Github.source ⟨HttpSettings.standard.userAgent⟩ "http://git.test" ["a/one", "a/two"] none .releases, .empty⟩
  have refused : (j.source.fetch run network).1.result.toOption.isNone := by decide +kernel
  obtain ⟨registry, said, built, found⟩ : ∃ registry said, build watching = .ok (registry, said) ∧
      registry.get? "watch" = some j := ⟨_, _, rfl, rfl⟩
  obtain ⟨row, listings, result, isLast, asks, gathered, shown⟩ :=
    build_all_or_nothing built found (by decide) run network
  have only : (rows watching.jobs "watch").getLast? = some watched := by decide
  obtain rfl : watched = row := Option.some.inj (only.symm.trans isLast)
  cases result with
  | ok items =>
    rw [shown] at refused
    cases refused
  | error e => exact ⟨registry, said, j, built, found, listings, e, asks, gathered, shown⟩

end Registry

end Harvester
