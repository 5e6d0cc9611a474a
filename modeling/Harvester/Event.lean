import Harvester.Item
import Harvester.Run
namespace Harvester

-- What became of a batch of items at the store. `failedIds` names the failed ones in order, as often as they failed.
structure Tally where
  accepted : Nat
  skipped : Nat
  failed : Nat
  failedIds : List String
deriving Repr, DecidableEq, Inhabited

namespace Tally

def zero : Tally := ⟨0, 0, 0, []⟩

def total (t : Tally) : Nat := t.accepted + t.skipped + t.failed

-- Two batches, one after the other.
def add (t u : Tally) : Tally :=
  ⟨t.accepted + u.accepted, t.skipped + u.skipped, t.failed + u.failed, t.failedIds ++ u.failedIds⟩

end Tally

-- A completed run in numbers.
structure JobReport where
  job : String
  runId : Long
  fetched : Nat
  dropped : Nat
  failedFeeds : Nat
  written : Tally
deriving Repr, DecidableEq, Inhabited

-- The steps of a run. A run ends completed or failed.
inductive Phase
  | started | fetching | normalizing | writing | completed | failed
deriving Repr, DecidableEq, Inhabited

def Phase.name : Phase → String
  | .started => "STARTED"
  | .fetching => "FETCHING"
  | .normalizing => "NORMALIZING"
  | .writing => "WRITING"
  | .completed => "COMPLETED"
  | .failed => "FAILED"

-- The phase as log records show it.
def Phase.label : Phase → String
  | .started => "Started"
  | .fetching => "Fetching"
  | .normalizing => "Normalizing"
  | .writing => "Writing"
  | .completed => "Completed"
  | .failed => "Failed"

inductive Occasion
  | starting | completed | failed
deriving Repr, DecidableEq, Inhabited

def Occasion.name : Occasion → String
  | .starting => "starting"
  | .completed => "completed"
  | .failed => "failed"

-- What listeners are told of a run: its start, and its end with either a report or an error text.
structure Event where
  jobId : String
  job : String
  runId : Long
  occasion : Occasion
  status : Phase
  report : Option JobReport
  error : Option String
deriving Repr, DecidableEq, Inhabited

namespace Event

def ofRun (run : Run) (occasion : Occasion) (status : Phase) (report : Option JobReport) (error : Option String) : Event :=
  ⟨run.jobId, run.job, run.id, occasion, status, report, error⟩

def starting (run : Run) : Event := ofRun run .starting .started none none

def completed (run : Run) (report : JobReport) : Event := ofRun run .completed .completed (some report) none

def failed (run : Run) (error : String) : Event := ofRun run .failed .failed none (some error)

end Event

end Harvester
