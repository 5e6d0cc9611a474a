import Harvester.Feed.Document
import Harvester.Source.Service
namespace Harvester

open Http

inductive FeedLocation
  | web (address : String)
  | held (document : String)
deriving Repr, DecidableEq, Inhabited

structure FeedSpec where
  name : String
  location : FeedLocation
deriving Repr, DecidableEq, Inhabited

namespace Feeds

def parsed (name document : String) : Except FetchError (List Feed.Entry) :=
  match Feed.parse name document with
  | .ok entries => .ok entries
  | .error dialect => .error (.malformed dialect.name (name ++ ": not the expected document"))

def load (client : Client) (feed : FeedSpec) (network : Network) : Except FetchError (List Feed.Entry) × Network :=
  match feed.location with
  | .held document => (parsed feed.name document, network)
  | .web address =>
    match network.send (client.get address [] []) with
    | (.error e, after) => (.error e, after)
    | (.ok reply, after) => (reply.success.bind (parsed feed.name), after)

def target : String := "devfeed_collector::ingest::providers::rss"

def parsedNotes (feed : FeedSpec) (count : Nat) : List Note :=
  [.say .debug target "feed parsed" [("feed", .text feed.name), ("count", .number count)]]

def failedNotes (feed : FeedSpec) (e : FetchError) : List Note :=
  [.say .warn target "feed failed, skipping" [("error", .text e.message), ("feed", .text feed.name)],
    .count .feedFailures 1]

-- Every feed is tried. One that does not load or parse is noted and contributes nothing.
def gather (client : Client) : List FeedSpec → Network → Batch × List Note × Network
  | [], network => (⟨[], 0⟩, [], network)
  | feed :: rest, network =>
    match load client feed network with
    | (.ok entries, after) =>
      let (batch, notes, last) := gather client rest after
      (⟨entries.map .feed ++ batch.items, batch.failedFeeds⟩, parsedNotes feed entries.length ++ notes, last)
    | (.error e, after) =>
      let (batch, notes, last) := gather client rest after
      (⟨batch.items, batch.failedFeeds + 1⟩, failedNotes feed e ++ notes, last)

def source (client : Client) (feeds : List FeedSpec) : Source where
  provider := .rss
  sourceType := .rss
  fetch _ network :=
    let (batch, notes, after) := gather client feeds network
    (⟨.ok batch, notes ++ fetchedNotes .rss batch.items.length⟩, after)

end Feeds

end Harvester
