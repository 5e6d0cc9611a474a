import Harvester.Http.Body
import Harvester.Journal
import Harvester.RawItem
namespace Harvester

open Http

-- What one fetch brought.
structure Batch where
  items : List RawItem
  failedFeeds : Nat
deriving Repr, Inhabited

structure Fetched where
  result : Except FetchError Batch
  notes : List Note
deriving Inhabited

-- Where items come from. A fetch may use the network and sees nothing else of the outside.
structure Source where
  provider : Provider
  sourceType : SourceType
  fetch : Run → Network → Fetched × Network

-- The notes of a fetch that went through.
def fetchedNotes (provider : Provider) (count : Nat) : List Note :=
  [.timed provider, .count (.fetched provider) count]

-- One request for items: how it is worded, how its body is read, and what is noted of its items.
structure Listing where
  call : Call
  read : String → Except FetchError (List RawItem)
  remarks : List RawItem → List Note

namespace Listing

def ask (listing : Listing) (network : Network) : Except FetchError (List RawItem) × Network :=
  match network.send listing.call with
  | (.error e, after) => (.error e, after)
  | (.ok reply, after) => (reply.success.bind listing.read, after)

-- One listing after the other; the first that fails ends it.
def gather : List Listing → Network → Except FetchError (List RawItem) × List Note × Network
  | [], network => (.ok [], [], network)
  | listing :: rest, network =>
    match listing.ask network with
    | (.error e, after) => (.error e, [], after)
    | (.ok items, after) =>
      match gather rest after with
      | (.error e, notes, last) => (.error e, listing.remarks items ++ notes, last)
      | (.ok more, notes, last) => (.ok (items ++ more), listing.remarks items ++ notes, last)

end Listing

-- A source that is asked by listings and delivers the items of all of them or none.
def Source.ofListings (provider : Provider) (sourceType : SourceType) (listings : Run → List Listing) : Source where
  provider := provider
  sourceType := sourceType
  fetch run network :=
    match Listing.gather (listings run) network with
    | (.error e, notes, after) => (⟨.error e, notes⟩, after)
    | (.ok items, notes, after) => (⟨.ok ⟨items, 0⟩, notes ++ fetchedNotes provider items.length⟩, after)

end Harvester
