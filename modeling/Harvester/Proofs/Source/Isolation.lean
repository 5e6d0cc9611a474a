import Harvester.Proofs.Http.Exchange
import Harvester.Proofs.Json.Elements
import Harvester.Source.Feeds
namespace Harvester

open Http

-- The elements of a list are read one by one, all of them.
theorem Xml.Record.many?_each {record : Xml.Record} {read : Xml.Child → Option α}
    (brought : record.many? name read = some xs) :
    List.Forall₂ (fun child x => read child = some x) (record.children.filter fun child => child.isNamed name) xs := by
  unfold many? at brought
  split at brought
  · rename_i empty
    cases brought
    rw [empty]
    exact .nil
  · rename_i first rest listed
    split at brought
    · rw [listed]
      exact mapM_eq_some_iff.mp brought
    · cases brought

theorem Xml.Record.once?_read {record : Xml.Record} {read : Xml.Child → Option α}
    (brought : record.once? name read = some (some x)) :
    ∃ child, record.once? name some = some (some child) ∧ read child = some x := by
  unfold once? at brought ⊢
  split at brought
  · cases brought
  · rename_i child _
    obtain ⟨y, shown, same⟩ := Option.map_eq_some_iff.mp brought
    cases same
    exact ⟨child, rfl, shown⟩
  · cases brought

namespace Feed

-- The elements that hold the entries of a document, read as far as needed to find them.
def Dialect.elements? (root : Xml.Child) : Dialect → Option (List Xml.Child)
  | .rss => do
    let record ← Xml.Record.ofElement? [] root
    let channel ← (record.once? "channel" some).join
    let list ← Xml.Record.ofElement? ["item"] channel
    some (list.children.filter fun child => child.isNamed "item")
  | .atom => do
    let record ← Xml.Record.ofElement? ["entry"] root
    some (record.children.filter fun child => child.isNamed "entry")

def Dialect.itemOf? (feed : String) : Dialect → Xml.Child → Option Entry
  | .rss => Rss.itemOf? feed
  | .atom => Atom.entryOf? feed

-- Every element of the document gives one entry, in the order of the document; one that cannot be read spoils it.
theorem Dialect.entries?_each {dialect : Dialect} (read : dialect.entries? feed root = some entries) :
    ∃ elements, dialect.elements? root = some elements ∧
      List.Forall₂ (fun element entry => dialect.itemOf? feed element = some entry) elements entries := by
  cases dialect with
  | rss =>
    simp only [Dialect.entries?, Rss.entries?, Option.bind_eq_bind, Option.bind_eq_some_iff] at read
    obtain ⟨record, recorded, _, once, rfl⟩ := read
    obtain ⟨channel, found, listed⟩ := Xml.Record.once?_read once
    simp only [Rss.channelOf?, Option.bind_eq_bind, Option.bind_eq_some_iff] at listed
    obtain ⟨list, opened, each⟩ := listed
    exact ⟨_, by simp [elements?, recorded, found, opened], Xml.Record.many?_each each⟩
  | atom =>
    simp only [Dialect.entries?, Atom.entries?, Option.bind_eq_bind, Option.bind_eq_some_iff] at read
    obtain ⟨record, recorded, each⟩ := read
    exact ⟨_, by simp [elements?, recorded], Xml.Record.many?_each each⟩

theorem Dialect.itemOf?_feed {dialect : Dialect} (read : dialect.itemOf? feed element = some entry) :
    entry.feed = feed := by
  cases dialect with
  | rss =>
    simp only [Dialect.itemOf?, Rss.itemOf?, Option.bind_eq_bind, Option.bind_eq_some_iff, Option.some.injEq] at read
    obtain ⟨_, _, _, _, _, _, _, _, _, _, _, _, _, _, _, _, rfl⟩ := read
    rfl
  | atom =>
    simp only [Dialect.itemOf?, Atom.entryOf?, Option.bind_eq_bind, Option.bind_eq_some_iff, Option.some.injEq] at read
    obtain ⟨_, _, _, _, _, _, _, _, _, _, _, _, _, _, _, _, _, _, _, _, rfl⟩ := read
    rfl

-- The entries of a document are those of its elements, each once and in their order, under the name of the feed.
def Holds (feed text : String) (entries : List Entry) : Prop :=
  ∃ name attributes content elements,
    Xml.root? (Xml.pieces (scrub text.toList)) = some (.element name attributes content) ∧
    (dialect (Xml.pieces (scrub text.toList))).elements? ⟨name, attributes, content, false⟩ = some elements ∧
    List.Forall₂ (fun element entry =>
      (dialect (Xml.pieces (scrub text.toList))).itemOf? feed element = some entry ∧ entry.feed = feed) elements entries

theorem parse_holds (parsed : parse feed text = .ok entries) : Holds feed text entries := by
  simp only [parse] at parsed
  split at parsed
  · rename_i found read
    cases parsed
    unfold Feed.entries? at read
    split at read
    · rename_i name attributes content rooted
      obtain ⟨elements, listed, each⟩ := Dialect.entries?_each read
      exact ⟨name, attributes, content, elements, rooted, listed,
        each.imp fun _ _ shown => ⟨shown, Dialect.itemOf?_feed shown⟩⟩
    · cases read
  · cases parsed

end Feed

namespace Feeds

-- A feed with what comes of it from outside: a document that is held needs nothing, an address gets its answer.
inductive Visit
  | held (name document : String)
  | web (name address : String) (answer : Answer)

namespace Visit

def feed : Visit → FeedSpec
  | .held name document => ⟨name, .held document⟩
  | .web name address _ => ⟨name, .web address⟩

-- The answer is only used where the request goes out.
def answers (client : Client) (network : Network) : Visit → List Answer
  | .held _ _ => []
  | .web _ address answer => if network.carries (client.get address [] []) then [answer] else []

-- The document there is to read: none where the request does not go out, or its answer is none, no success, or broken
-- off.
def document? (client : Client) (network : Network) : Visit → Option String
  | .held _ document => some document
  | .web _ address answer => if network.carries (client.get address [] []) then answer.body? else none

-- All entries of the document, or none where there is none or it is not what it should be.
def entries? (client : Client) (network : Network) (visit : Visit) : Option (List Feed.Entry) :=
  (visit.document? client network).bind fun document => (Feed.parse visit.feed.name document).toOption

end Visit

theorem parsed_toOption (name document : String) :
    (parsed name document).toOption = (Feed.parse name document).toOption := by
  unfold parsed
  cases Feed.parse name document <;> rfl

-- Loading comes to the entries of the visit and takes the visit's answers off the line.
theorem load_visit (client : Client) (visit : Visit) {network : Network}
    (line : network.answers = visit.answers client network ++ rest) :
    ∃ result sent, load client visit.feed network = (result, { network with answers := rest, sent }) ∧
      result.toOption = visit.entries? client network := by
  cases visit with
  | held name document =>
    obtain ⟨reachable, tunnels, answers, sent⟩ := network
    cases line
    exact ⟨parsed name document, sent, rfl, parsed_toOption name document⟩
  | web name address answer =>
    have asked : load client ⟨name, .web address⟩ network = network.ask (client.get address [] []) (parsed name) := rfl
    rw [Visit.feed, asked, Visit.entries?, Visit.document?]
    rw [Visit.answers] at line
    cases carried : network.carries (client.get address [] []) with
    | false =>
      obtain ⟨e, sent, failed⟩ := Network.ask_uncarried carried (parsed name)
      have kept : network.answers = rest := by simpa [carried] using line
      exact ⟨.error e, sent, by rw [failed, ← kept], rfl⟩
    | true =>
      obtain ⟨url, built⟩ := Network.carries_url carried
      have next : network.answers = answer :: rest := by simpa [carried] using line
      refine ⟨_, _, Network.ask_carried carried built next (parsed name), ?_⟩
      rw [toOption_bind, Answer.content_toOption, if_pos rfl]
      simp only [parsed_toOption]
      rfl

-- What the feeds bring together: each all of its entries or none, and one failure for each that brings none.
def together (client : Client) (network : Network) (visits : List Visit) : Batch where
  items := (visits.flatMap fun visit => (visit.entries? client network).getD []).map .feed
  failedFeeds := visits.countP fun visit => (visit.entries? client network).isNone

theorem together_cons (client : Client) (network : Network) (visit : Visit) (rest : List Visit) :
    together client network (visit :: rest) =
      match visit.entries? client network with
      | some entries =>
        ⟨entries.map .feed ++ (together client network rest).items, (together client network rest).failedFeeds⟩
      | none => ⟨(together client network rest).items, (together client network rest).failedFeeds + 1⟩ := by
  cases read : visit.entries? client network <;> simp [together, read]

-- How one feed comes out leaves the line of the others as it was, so the rest is gathered as if it had been alone.
theorem gather_visits (client : Client) (visits : List Visit) {network : Network}
    (line : network.answers = visits.flatMap (Visit.answers client network) ++ spare) :
    (gather client (visits.map Visit.feed) network).1 = together client network visits := by
  induction visits generalizing network with
  | nil => rfl
  | cons visit rest ih =>
    rw [List.flatMap_cons, List.append_assoc] at line
    obtain ⟨result, sent, loaded, shown⟩ := load_visit client visit line
    have others : (gather client (rest.map Visit.feed)
        { network with answers := rest.flatMap (Visit.answers client network) ++ spare, sent }).1 =
          together client network rest := ih rfl
    rw [List.map_cons, gather, loaded, together_cons, ← shown, ← others]
    cases result <;> rfl

-- A feed that brings nothing leaves no trace among the items, wherever it stands.
theorem together_failing (before after : List Visit) (failing : bad.entries? client network = none) :
    together client network (before ++ bad :: after) =
      { together client network (before ++ after) with
        failedFeeds := (together client network (before ++ after)).failedFeeds + 1 } := by
  simp only [together, List.flatMap_append, List.flatMap_cons, failing, Option.getD_none, List.nil_append,
    List.countP_append, List.countP_cons, Option.isNone_none, if_true]
  rfl

-- What a fetch of some feeds comes to when each is given its answer.
def fetched (client : Client) (run : Run) (network : Network) (spare : List Answer) (visits : List Visit) :
    Except FetchError Batch :=
  ((source client (visits.map Visit.feed)).fetch run
    { network with answers := visits.flatMap (Visit.answers client network) ++ spare }).1.result

-- No feed can spoil a fetch or another feed: what comes back is, feed by feed, the whole of a document or nothing, and
-- a feed that brings nothing is told from one that is not configured by the number of failed feeds alone.
theorem source_isolates (client : Client) (run : Run) (network : Network) (spare : List Answer) :
    (∀ visits, fetched client run network spare visits = .ok
      ⟨(visits.flatMap fun visit => (visit.entries? client network).getD []).map .feed,
        visits.countP fun visit => (visit.entries? client network).isNone⟩) ∧
    (∀ (visit : Visit) entries, visit.entries? client network = some entries →
      ∃ document, visit.document? client network = some document ∧ Feed.Holds visit.feed.name document entries) ∧
    ∀ before (bad : Visit) after, bad.entries? client network = none → ∃ items failed,
      fetched client run network spare (before ++ after) = .ok ⟨items, failed⟩ ∧
      fetched client run network spare (before ++ bad :: after) = .ok ⟨items, failed + 1⟩ := by
  have brought : ∀ visits, fetched client run network spare visits = .ok (together client network visits) := by
    intro visits
    simp only [fetched, source]
    rw [gather_visits client visits rfl]
    rfl
  refine ⟨brought, fun visit entries read => ?_, fun before bad after failing => ?_⟩
  · obtain ⟨document, shown, parsed⟩ := Option.bind_eq_some_iff.mp read
    cases result : Feed.parse visit.feed.name document with
    | error e => simp [result, Except.toOption] at parsed
    | ok found =>
      rw [result] at parsed
      cases parsed
      exact ⟨document, shown, Feed.parse_holds result⟩
  · refine ⟨_, _, brought _, ?_⟩
    rw [brought, together_failing before after failing]
    rfl

def firstItem : String := "<rss><channel><item><title>Kept</title></item></channel></rss>"

-- The second item has two titles.
def spoiltItem : String :=
  "<rss><channel><item><title>Kept</title></item><item><title>Twice</title><title>over</title></item></channel></rss>"

-- The first item of a document is lost with its second, and the feeds around it are not.
theorem source_isolates_spoilt :
    let client : Client := ⟨"harvester"⟩
    let network : Network := ⟨true, false, [], []⟩
    let run := Run.following "feeds" none .empty
    let first : Visit := .web "first" "http://feeds.test/first" (.reply 200 (Text.utf8 firstItem) true)
    let last : Visit := .held "last" firstItem
    let kept (name : String) : RawItem := .feed ⟨name, some "Kept", none, none, none, none, none, none, []⟩
    fetched client run network [] [first, last] = .ok ⟨[kept "first", kept "last"], 0⟩ ∧
    fetched client run network [] [first, .held "spoilt" spoiltItem, last] = .ok ⟨[kept "first", kept "last"], 1⟩ := by
  intro client network run first last kept
  have shown : first.entries? client network = some [⟨"first", some "Kept", none, none, none, none, none, none, []⟩] ∧
      last.entries? client network = some [⟨"last", some "Kept", none, none, none, none, none, none, []⟩] := by
    decide +kernel
  have spoilt : (Visit.held "spoilt" spoiltItem).entries? client network = none := by decide +kernel
  obtain ⟨items, failed, without, amid⟩ := (source_isolates client run network []).2.2 [first] _ [last] spoilt
  have alone : fetched client run network [] [first, last] = .ok ⟨[kept "first", kept "last"], 0⟩ := by
    rw [(source_isolates client run network []).1]
    simp [shown, kept]
  have same := without.symm.trans alone
  cases same
  exact ⟨alone, amid⟩

end Feeds

end Harvester
