import Harvester.Failure
import Harvester.World
namespace Harvester

open Http

inductive ListenerFault
  | unsent (detail : String)
  | refused (detail : String)
  | other (text : String)
deriving Repr, DecidableEq, Inhabited

namespace ListenerFault

def message : ListenerFault → String
  | .unsent _ => "slack post"
  | .refused _ => "slack non-2xx"
  | .other text => text

-- The message with its cause.
def inFull : ListenerFault → String
  | .unsent detail => "slack post: " ++ detail
  | .refused detail => "slack non-2xx: " ++ detail
  | .other text => text

end ListenerFault

-- How a listener took an event: whether it failed, and what it wrote to the log.
structure Told where
  fault : Option ListenerFault
  records : List LogRecord
deriving Repr, DecidableEq, Inhabited

-- Who is told of events. `notify` also knows how many events came before.
structure Listener where
  name : String
  notify : Nat → Event → Network → Told × Network

namespace Listener

def idField (event : Event) : String × Shown := ("job_id", .text event.jobId)

def statusField (event : Event) : String × Shown := ("status", .text event.status.label)

def reportFields (r : JobReport) : List (String × Shown) :=
  [("fetched", .number r.fetched), ("dropped", .number r.dropped), ("failed_feeds", .number r.failedFeeds),
    ("accepted", .number r.written.accepted), ("skipped", .number r.written.skipped),
    ("failed", .number r.written.failed)]

def record (event : Event) : LogRecord :=
  match event.occasion, event.report with
  | .completed, some r =>
    ⟨.info, "ingest", "job completed", idField event :: statusField event :: reportFields r⟩
  | .failed, _ =>
    ⟨.warn, "ingest", "job failed", [idField event, statusField event, ("error", .text (event.error.getD ""))]⟩
  | occasion, _ => ⟨.info, "ingest", "job " ++ occasion.name, [idField event, statusField event]⟩

-- Writes every event to the log.
def logging : Listener where
  name := "tracing"
  notify _ event network := (⟨none, [record event]⟩, network)

def summary (event : Event) : String :=
  "*" ++ event.jobId ++ "* " ++ event.occasion.name ++ ": " ++
    match event.report with
    | some r =>
      "accepted " ++ toString r.written.accepted ++ ", skipped " ++ toString r.written.skipped ++ ", failed " ++
        toString r.written.failed ++ ", dropped " ++ toString r.dropped ++ ", failed feeds " ++ toString r.failedFeeds
    | none => event.error.getD "no report"

def post (address : String) (event : Event) : Call :=
  ⟨.post, address, [], [("accept", "*/*"), ("content-type", "application/json")],
    some (.obj [("text", .str (summary event))])⟩

-- Answers from 400 up count as refusals.
def slackAnswer : Except FetchError Reply → Option ListenerFault
  | .error e => some (.unsent e.message)
  | .ok reply => if 400 ≤ reply.status ∧ reply.status < 600 then some (.refused (toString reply.status)) else none

-- Posts how runs ended. Without an address it only notes that it is off.
def slack (address : Option String) : Listener where
  name := "slack"
  notify _ event network :=
    match address with
    | none =>
      (⟨none, [⟨.debug, "devfeed_collector::ingest::listener", "Slack disabled (no SLACK_WEBHOOK_URL)", []⟩]⟩, network)
    | some address =>
      if event.occasion = .starting then (⟨none, []⟩, network)
      else
        let (answer, after) := network.send (post address event)
        (⟨slackAnswer answer, []⟩, after)

-- The log always; Slack where an address is set.
def standard (slackAddress : Option String) : List Listener :=
  match slackAddress with
  | none => [logging]
  | some address => [logging, slack (some address)]

def faultNotes (name : String) (event : Event) : Option ListenerFault → List Note
  | none => []
  | some fault =>
    [.say .warn "devfeed_collector::ingest::listener" ("listener failed: " ++ fault.inFull)
      [("listener", .text name), idField event]]

-- The listener at a position is told of an event. Its fault is noted, and that is all that becomes of it.
def hear (listener : Listener) (position : Nat) (event : Event) (w : World σ) : World σ :=
  let (told, network) := listener.notify w.rounds event w.network
  let heard : World σ := { w with network, journal := w.journal.tell position event }
  heard.note (told.records.map Note.log ++ faultNotes listener.name event told.fault)

-- The listeners from position `i` on, one after the other.
def tell (event : Event) : Nat → List Listener → World σ → World σ
  | _, [], w => w
  | i, listener :: rest, w => tell event (i + 1) rest (listener.hear i event w)

def announce (listeners : List Listener) (event : Event) (w : World σ) : World σ :=
  let after := tell event 0 listeners w
  { after with rounds := after.rounds + 1 }

end Listener

end Harvester
