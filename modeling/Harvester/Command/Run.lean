import Harvester.Command.Address
import Harvester.Command.Filter
import Harvester.Schedule
import Harvester.Settings.Dotenv
import Harvester.Settings.Jobs
import Harvester.Settings.Load
namespace Harvester

open Http

-- The collector as a command: what it finds around itself, and what it leaves.
structure Surroundings where
  env : Environment
  disk : Disk
  network : Network
  now : Instant
deriving Inhabited

-- `error` is the first line that is printed about what stopped it.
structure Finished where
  error : Option String
  notes : List Note
  disk : Disk
  network : Network
deriving Inhabited

namespace Command

def target : String := "devfeed_collector"

def standardAddress : String := "127.0.0.1:9091"

def stopped (s : Surroundings) (error : String) (notes : List Note) : Finished := ⟨some error, notes, s.disk, s.network⟩

def outcomeNote (outcome : Outcome) : Note :=
  match outcome.report? with
  | some r =>
    .say .info target "job completed" [("job", .text r.job), ("run_id", .number r.runId.value),
      ("accepted", .number r.written.accepted), ("skipped", .number r.written.skipped),
      ("failed", .number r.written.failed)]
  | none =>
    .say .warn target "job failed" [("job", .text outcome.run.job), ("run_id", .number outcome.run.id.value)]

def runOnce (env : Environment) : Bool := env.get? "COLLECTOR_RUN_ONCE" = some "1"

def configuredNote (registry : Registry) (settings : Settings) : Note :=
  .say .info target "collector configured" [("jobs", .number registry.size), ("sink", .text settings.sink.baseUrl)]

-- The command with everything set up: its jobs can be run.
structure Setup where
  collector : Collector Unit
  settings : Settings
  surroundings : Surroundings
  notes : List Note

namespace Setup

def history (setup : Setup) : History Disk := History.file setup.settings.schedule.historyPath

def begin (setup : Setup) : World Unit := (World.start setup.surroundings.network ()).note setup.notes

-- Every job once.
def once (setup : Setup) : Finished :=
  let s := setup.surroundings
  let (outcomes, after, disk) := setup.collector.runAll setup.history s.now setup.begin s.disk
  ⟨none, after.journal.notes ++ outcomes.map outcomeNote, disk, after.network⟩

-- Tick after tick until it is told to stop.
def onSchedule (setup : Setup) (ticks : Nat) : Finished :=
  let s := setup.surroundings
  let (after, disk) := setup.collector.ticks setup.history s.now ticks setup.begin s.disk
  ⟨none, after.journal.notes ++ [.say .info target "shutting down" []], disk, after.network⟩

end Setup

def setUpWith (settings : Settings) (s : Surroundings) : Except Finished Setup :=
  match Registry.build settings with
  | .error fault => .error (stopped s fault.message [])
  | .ok (registry, registered) =>
    let notes := registered ++ [configuredNote registry settings]
    let collector : Collector Unit :=
      ⟨registry, RemoteStore.sink settings.sink.baseUrl, Listener.standard (s.env.get? "SLACK_WEBHOOK_URL"),
        settings.sink.defaultStatus⟩
    match SocketAddress.parse? ((s.env.get? "METRICS_ADDR").getD standardAddress) with
    | none => .error (stopped s "parsing METRICS_ADDR" notes)
    | some address =>
      .ok ⟨collector, settings, s, notes ++ [.say .info target "metrics server listening" [("addr", .text address.render)]]⟩

-- The environment of the command is filled up from a file beside it.
def withDotenv (s : Surroundings) : Surroundings :=
  match s.disk.look ".env" with
  | .file text => { s with env := Dotenv.apply s.env text }
  | _ => s

def setUp (s : Surroundings) : Except Finished Setup :=
  let s := withDotenv s
  match Settings.loadDefault s.disk s.env with
  | .error _ => .error (stopped s "loading collector config" [])
  | .ok settings => setUpWith settings s

-- The whole command; where it works on schedule, this many ticks come before it is told to stop.
def run (s : Surroundings) (ticks : Nat) : Finished :=
  match setUp s with
  | .error finished => finished
  | .ok setup => if runOnce setup.surroundings.env then setup.once else setup.onSchedule ticks

def filter (env : Environment) : LogFilter := ((env.get? "RUST_LOG").bind LogFilter.parse?).getD LogFilter.standard

def isJson (env : Environment) : Bool :=
  match env.get? "LOG_FORMAT" with
  | some format => format.toList.map Text.lowerAscii = "json".toList
  | none => false

-- The records that are shown, under the environment with the file beside it.
def shown (s : Surroundings) (notes : List Note) : List LogRecord :=
  (notes.filterMap Note.log?).filter (filter (withDotenv s).env).shows

end Command

end Harvester
