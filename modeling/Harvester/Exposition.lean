import Harvester.Journal
namespace Harvester

-- The figures of the collector as a page for a monitoring system to read. What hangs on the clock, the durations of
-- fetches and the time of the last job, is announced on the page without a value.

namespace Counter

def family : Counter → String
  | .fetched _ => "collector_items_fetched_total"
  | .dropped => "collector_items_dropped_total"
  | .accepted _ => "collector_items_accepted_total"
  | .skipped _ => "collector_items_skipped_total"
  | .failed _ => "collector_items_failed_total"
  | .feedFailures => "collector_feed_failures_total"
  | .jobFailures => "collector_job_failures_total"
  | .ticks => "collector_runs_total"

def label : Counter → String
  | .fetched provider => "\x7bprovider=\"" ++ provider.name ++ "\"\x7d"
  | .accepted source | .skipped source | .failed source => "\x7bsource_type=\"" ++ source.name ++ "\"\x7d"
  | .dropped | .feedFailures | .jobFailures | .ticks => ""

def sample (counter : Counter) (value : Nat) : String := counter.family ++ counter.label ++ " " ++ toString value

end Counter

-- A whole number as the nearest float shows it: the fewest digits that read back, filled up with zeros.
namespace WholeFloat

def bitLength (n : Nat) : Nat := if n = 0 then 0 else Nat.log2 n + 1

-- Significand and power of two; a half goes to the even significand, and a full significand moves up a power.
def nearest (n : Nat) : Nat × Nat :=
  let shift := bitLength n - 53
  let unit := Nat.pow 2 shift
  let low := n / unit
  let rest := n % unit
  let up := 2 * rest > unit ∨ (2 * rest = unit ∧ low % 2 = 1)
  let rounded := if up then low + 1 else low
  if rounded = Nat.pow 2 53 then (Nat.pow 2 52, shift + 1) else (rounded, shift)

-- Whether a decimal candidate reads back as the float, whose neighbours are half a unit away to either side.
def readsBack (significand shift candidate : Nat) : Bool := nearest candidate == (significand, shift)

-- The candidate on the grid of `step` that is nearest to the value, if one reads back.
def onGrid (significand shift step : Nat) : Option Nat :=
  let value := significand * Nat.pow 2 shift
  let low := value / step * step
  let candidates := [low, low + step].filter (readsBack significand shift)
  match candidates with
  | [a, b] => if 2 * (value - low) ≤ step then some a else some b
  | [a] => some a
  | _ => none

def onGrids (significand shift : Nat) : Nat → Nat
  | 0 => significand * Nat.pow 2 shift
  | k + 1 => (onGrid significand shift (Nat.pow 10 (k + 1))).getD (onGrids significand shift k)

def text (n : Nat) : String :=
  let (significand, shift) := nearest n
  if shift = 0 then toString n
  else toString (onGrids significand shift ((toString n).length))

end WholeFloat

inductive FigureKind
  | counter | gauge | summary
deriving Repr, DecidableEq, Inhabited

def FigureKind.name : FigureKind → String
  | .counter => "counter"
  | .gauge => "gauge"
  | .summary => "summary"

structure Family where
  name : String
  kind : FigureKind
  help : String
deriving Repr, DecidableEq, Inhabited

namespace Exposition

def counters : List Family :=
  [⟨"collector_items_fetched_total", .counter, "Raw items returned by source adapters."⟩,
    ⟨"collector_items_dropped_total", .counter, "Raw items dropped because they could not be normalized."⟩,
    ⟨"collector_items_accepted_total", .counter, "Items created at the ingest sink."⟩,
    ⟨"collector_items_skipped_total", .counter, "Items the sink already had (duplicate provider + externalId)."⟩,
    ⟨"collector_items_failed_total", .counter, "Items the sink rejected for a non-duplicate reason."⟩,
    ⟨"collector_feed_failures_total", .counter, "RSS feeds that failed to load or parse."⟩,
    ⟨"collector_job_failures_total", .counter, "Jobs that ended in FAILED (fetch error)."⟩,
    ⟨"collector_runs_total", .counter, "Scheduler ticks."⟩]

def lastRun : Family := ⟨"collector_last_run_ts", .gauge, "Unix ts when a job last completed."⟩

def fetchTime : Family := ⟨"collector_fetch_ms", .summary, "Adapter fetch time in milliseconds."⟩

def counter? : Note → Option Counter
  | .count counter _ => some counter
  | _ => none

-- The counters that have appeared, each once.
def appeared (journal : Journal) : List Counter := (journal.notes.filterMap counter?).eraseDups

def samplesOf (journal : Journal) (family : String) : List String :=
  ((appeared journal).filter fun c => c.family == family).map fun c => c.sample (journal.count c)

def samples (journal : Journal) : List String :=
  (appeared journal).map fun c => c.sample (journal.count c)

def typeLine (name : String) (kind : FigureKind) : String := "# TYPE " ++ name ++ " " ++ kind.name

def heading (family : Family) : List String :=
  ["# HELP " ++ family.name ++ " " ++ family.help, typeLine family.name family.kind]

def counterBlock (journal : Journal) (family : Family) : List String :=
  match samplesOf journal family.name with
  | [] => []
  | lines => heading family ++ lines

def intervalName : String := "collector_schedule_interval_secs"

def isTimed : Note → Bool
  | .timed _ => true
  | _ => false

-- The lines of the page. The interval between ticks is always among them, and has no help text.
def page (interval : Nat) (journal : Journal) : List String :=
  counters.flatMap (counterBlock journal) ++
    (if journal.notes.contains .finished then heading lastRun else []) ++
    [typeLine intervalName .gauge, intervalName ++ " " ++ WholeFloat.text interval] ++
    (if journal.notes.any isTimed then heading fetchTime else [])

inductive Body
  | page (lines : List String)
  | text (s : String)
deriving Repr, DecidableEq, Inhabited

structure Answer where
  status : Nat
  body : Body
deriving Repr, DecidableEq, Inhabited

def withoutQuery (path : String) : String := String.ofList (path.toList.takeWhile (· != '?'))

-- Two pages that can be read and nothing else.
def answer (interval : Nat) (journal : Journal) (method path : String) : Answer :=
  let body? := match withoutQuery path with
    | "/metrics" => some (Body.page (page interval journal))
    | "/health" => some (Body.text "OK")
    | _ => none
  match body? with
  | none => ⟨404, .text ""⟩
  | some body =>
    if method = "GET" then ⟨200, body⟩ else if method = "HEAD" then ⟨200, .text ""⟩ else ⟨405, .text ""⟩

end Exposition

end Harvester
