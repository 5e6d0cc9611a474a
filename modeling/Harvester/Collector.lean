import Harvester.Delivery
import Harvester.Listener
import Harvester.Normalize
import Harvester.Source.Listing
namespace Harvester

structure Job where
  source : Source
  defaults : Parameters

-- The jobs by name.
abbrev Registry := Keyed Job

structure Collector (σ : Type) where
  jobs : Registry
  sink : Sink σ
  listeners : List Listener
  defaultStatus : Status

-- How a run went, with the phases it passed.
inductive Outcome
  | completed (run : Run) (report : JobReport) (phases : List Phase)
  | failed (run : Run) (error : FetchError) (phases : List Phase)
deriving Repr, DecidableEq, Inhabited

namespace Outcome

def run : Outcome → Run
  | .completed run _ _ => run
  | .failed run _ _ => run

def phases : Outcome → List Phase
  | .completed _ _ phases => phases
  | .failed _ _ phases => phases

def report? : Outcome → Option JobReport
  | .completed _ report _ => some report
  | .failed _ _ _ => none

def isCompleted : Outcome → Bool
  | .completed _ _ _ => true
  | .failed _ _ _ => false

end Outcome

-- Raw items sorted into those that could be brought to items and the reasons of the others, both in their order.
structure Sifted where
  items : List Item
  dropped : List MissingField
deriving Repr, DecidableEq, Inhabited

def sift (provider : Provider) (fetchedAt : Instant) : List RawItem → Sifted
  | [] => ⟨[], []⟩
  | raw :: rest =>
    let others := sift provider fetchedAt rest
    match normalize raw provider fetchedAt with
    | .ok item => { others with items := item :: others.items }
    | .error missing => { others with dropped := missing :: others.dropped }

def droppedNotes (job : String) (dropped : List MissingField) : List Note :=
  (dropped.map fun missing =>
    .say .debug "devfeed_collector::ingest::orchestrator" "item dropped"
      [("job", .text job), ("error", .text missing.message)]) ++
    [.count .dropped dropped.length]

namespace Collector

-- After a fetch that brought something: the items are normalized and written, and the listeners get the report.
def conclude (c : Collector σ) (source : Source) (now : Instant) (run : Run) (batch : Batch) (phases : List Phase)
    (w : World σ) : Outcome × World σ :=
  let sifted := sift source.provider now batch.items
  let delivery : Delivery := ⟨source.sourceType, run.job, c.defaultStatus⟩
  let (tally, written) := delivery.write c.sink sifted.items (w.note (droppedNotes run.job sifted.dropped))
  let report : JobReport :=
    ⟨run.job, run.id, batch.items.length, sifted.dropped.length, batch.failedFeeds, tally⟩
  let told := Listener.announce c.listeners (.completed run report) (written.note [.finished])
  (.completed run report (phases ++ [.normalizing, .writing, .completed]), told)

def abandon (c : Collector σ) (run : Run) (e : FetchError) (phases : List Phase) (w : World σ) : Outcome × World σ :=
  let told := Listener.announce c.listeners (.failed run e.message) (w.note [.count .jobFailures 1])
  (.failed run e (phases ++ [.failed]), told)

-- The listeners learn of the start before the source is asked.
def fetchFor (c : Collector σ) (source : Source) (run : Run) (w : World σ) : Except FetchError Batch × World σ :=
  let begun := Listener.announce c.listeners (.starting run) w
  let (fetched, network) := source.fetch run begun.network
  (fetched.result, { begun with network }.note fetched.notes)

def launch (c : Collector σ) (source : Source) (now : Instant) (run : Run) (w : World σ) : Outcome × World σ :=
  let phases := [.started, .fetching]
  match c.fetchFor source run w with
  | (.ok batch, after) => c.conclude source now run batch phases after
  | (.error e, after) => c.abandon run e phases after

-- One run of a job. Supplied parameters win over the job's defaults.
def runJob (c : Collector σ) (now : Instant) (job : String) (prior : Option Parameters) (supplied : Parameters)
    (w : World σ) : Except UnknownJob Outcome × World σ :=
  match c.jobs.get? job with
  | none => (.error ⟨job⟩, w)
  | some j =>
    let (outcome, after) := c.launch j.source now (.following job prior (j.defaults.overlay supplied)) w
    (.ok outcome, after)

end Collector

end Harvester
