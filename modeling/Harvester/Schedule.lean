import Harvester.Collector
import Harvester.History
namespace Harvester

-- Why a job was not run.
inductive NotRun
  | history (job : String) (fault : HistoryFault)
  | unknown (u : UnknownJob)
deriving Repr, DecidableEq, Inhabited

namespace NotRun

def message : NotRun → String
  | .history job _ => "reading run history of `" ++ job ++ "`"
  | .unknown u => u.message

def inFull : NotRun → String
  | .history job fault => "reading run history of `" ++ job ++ "`: " ++ fault.inFull
  | .unknown u => u.message

end NotRun

-- The date of a run is the time it is launched at.
def suppliedAt (now : Instant) : Parameters := Keyed.empty.insert baseDateKey (.text now.renderSeconds)

def recordNotes (job : String) (run : Run) : Except HistoryFault Unit → List Note
  | .ok () => []
  | .error fault =>
    [.say .error "scheduler" ("run history not recorded: " ++ fault.inFull)
      [("job", .text job), ("run_id", .number run.id.value)]]

def skippedNotes (job : String) (reason : NotRun) : List Note :=
  [.say .warn "scheduler" ("job not run: " ++ reason.inFull) [("job", .text job)]]

namespace Collector

variable {σ η : Type}

-- Look up the last run, run the job, and keep its parameters for the next run, whether it completed or failed. A history
-- that cannot be written is noted only.
def runOne (c : Collector σ) (history : History η) (now : Instant) (job : String) (w : World σ) (past : η) :
    Except NotRun Outcome × World σ × η :=
  match history.last job past with
  | .error fault => (.error (.history job fault), w, past)
  | .ok prior =>
    match c.runJob now job prior (suppliedAt now) w with
    | (.error u, after) => (.error (.unknown u), after, past)
    | (.ok outcome, after) =>
      let (kept, present) := history.record job outcome.run.toParameters past
      (.ok outcome, after.note (recordNotes job outcome.run kept), present)

-- The jobs of a list one after the other. One that cannot be run is noted and left out.
def runEach (c : Collector σ) (history : History η) (now : Instant) : List String → World σ → η →
    List Outcome × World σ × η
  | [], w, past => ([], w, past)
  | job :: rest, w, past =>
    match c.runOne history now job w past with
    | (.ok outcome, after, present) =>
      let (others, last, final) := c.runEach history now rest after present
      (outcome :: others, last, final)
    | (.error reason, after, present) => c.runEach history now rest (after.note (skippedNotes job reason)) present

-- Every job once, in the order of the names.
def runAll (c : Collector σ) (history : History η) (now : Instant) (w : World σ) (past : η) :
    List Outcome × World σ × η :=
  c.runEach history now c.jobs.keys w past

def tickNotes (outcomes : List Outcome) : List Note :=
  let completed := (outcomes.filter Outcome.isCompleted).length
  [.count .ticks 1,
    .say .info "scheduler" "collector tick" [("jobs", .number outcomes.length), ("completed", .number completed),
      ("failed", .number (outcomes.length - completed))]]

def tick (c : Collector σ) (history : History η) (now : Instant) (w : World σ) (past : η) : World σ × η :=
  let (outcomes, after, present) := c.runAll history now w past
  (after.note (tickNotes outcomes), present)

def ticks (c : Collector σ) (history : History η) (now : Instant) : Nat → World σ → η → World σ × η
  | 0, w, past => (w, past)
  | n + 1, w, past =>
    let (after, present) := c.tick history now w past
    c.ticks history now n after present

end Collector

-- How many ticks fall before the end of a time span, the first of them at its beginning. The interval is one second at
-- least.
def ticksWithin (intervalSeconds milliseconds : Nat) : Nat :=
  let interval := max intervalSeconds 1 * 1000
  (milliseconds + interval - 1) / interval

end Harvester
