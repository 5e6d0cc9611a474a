import Mathlib.Algebra.BigOperators.Group.List.Basic
import Harvester.Proofs.Collector.Batch
import Harvester.Proofs.Source.Services
namespace Harvester

variable {σ : Type}

-- One run that is asked for.
structure JobCall where
  now : Instant
  job : String
  prior : Option Parameters
  supplied : Parameters

-- The reports of the runs that were completed.
def reports (answers : List (Except UnknownJob Outcome)) : List JobReport :=
  answers.filterMap fun answer => answer.toOption.bind Outcome.report?

def isFailure : Except UnknownJob Outcome → Bool
  | .ok outcome => !outcome.isCompleted
  | .error _ => false

-- What one report is to add to the counters, where its job has this source.
def JobReport.share (report : JobReport) (source : Source) : Counter → Nat
  | .fetched provider => if source.provider = provider then report.fetched else 0
  | .dropped => report.dropped
  | .accepted sourceType => if source.sourceType = sourceType then report.written.accepted else 0
  | .skipped sourceType => if source.sourceType = sourceType then report.written.skipped else 0
  | .failed sourceType => if source.sourceType = sourceType then report.written.failed else 0
  | .feedFailures => report.failedFeeds
  | .jobFailures | .ticks => 0

-- Everything fetched was dropped or came to the store, over all providers and source types.
def Balanced (figures : Counter → Nat) : Prop :=
  (Provider.all.map fun provider => figures (.fetched provider)).sum = figures .dropped +
    (SourceType.all.map fun sourceType =>
      figures (.accepted sourceType) + figures (.skipped sourceType) + figures (.failed sourceType)).sum

theorem Balanced.add {figures more : Counter → Nat} (first : Balanced figures) (second : Balanced more) :
    Balanced fun counter => figures counter + more counter := by
  simp only [Balanced, Provider.all, SourceType.all, List.map_cons, List.map_nil, List.sum_cons, List.sum_nil] at *
  omega

theorem JobReport.share_balanced {report : JobReport} (source : Source)
    (balance : report.fetched = report.dropped + report.written.accepted + report.written.skipped + report.written.failed) :
    Balanced (report.share source) := by
  have fetched : (Provider.all.map fun provider => report.share source (.fetched provider)).sum = report.fetched := by
    simp only [JobReport.share, Provider.all]
    cases source.provider <;> simp
  have written : (SourceType.all.map fun sourceType => report.share source (.accepted sourceType) +
      report.share source (.skipped sourceType) + report.share source (.failed sourceType)).sum =
      report.written.accepted + report.written.skipped + report.written.failed := by
    simp only [JobReport.share, SourceType.all]
    cases source.sourceType <;> simp
  rw [Balanced, fetched, written, balance]
  simp only [JobReport.share]
  omega

namespace Collector

def runJobs (c : Collector σ) : List JobCall → World σ → List (Except UnknownJob Outcome) × World σ
  | [], w => ([], w)
  | call :: rest, w =>
    let (answer, after) := c.runJob call.now call.job call.prior call.supplied w
    let (others, last) := c.runJobs rest after
    (answer :: others, last)

-- The reports of the jobs whose items come from a provider, and of those whose source is of a type.

def reportsBy (c : Collector σ) (provider : Provider) (answers : List (Except UnknownJob Outcome)) : List JobReport :=
  (reports answers).filter fun report => (c.jobs.get? report.job).any fun j => j.source.provider == provider

def reportsFrom (c : Collector σ) (sourceType : SourceType) (answers : List (Except UnknownJob Outcome)) :
    List JobReport :=
  (reports answers).filter fun report => (c.jobs.get? report.job).any fun j => j.source.sourceType == sourceType

-- What the counters are to show of some runs.
def owed (c : Collector σ) (answers : List (Except UnknownJob Outcome)) : Counter → Nat
  | .fetched provider => ((c.reportsBy provider answers).map fun report => report.fetched).sum
  | .dropped => ((reports answers).map fun report => report.dropped).sum
  | .accepted sourceType => ((c.reportsFrom sourceType answers).map fun report => report.written.accepted).sum
  | .skipped sourceType => ((c.reportsFrom sourceType answers).map fun report => report.written.skipped).sum
  | .failed sourceType => ((c.reportsFrom sourceType answers).map fun report => report.written.failed).sum
  | .feedFailures => ((reports answers).map fun report => report.failedFeeds).sum
  | .jobFailures => answers.countP isFailure
  | .ticks => 0

theorem owed_nothing (c : Collector σ) (counter : Counter) : c.owed [] counter = 0 := by
  cases counter <;> rfl

theorem owed_append (c : Collector σ) (early late : List (Except UnknownJob Outcome)) (counter : Counter) :
    c.owed (early ++ late) counter = c.owed early counter + c.owed late counter := by
  cases counter <;> simp [owed, reportsBy, reportsFrom, reports]

theorem owed_unknown (c : Collector σ) (u : UnknownJob) (counter : Counter) : c.owed [.error u] counter = 0 := by
  cases counter <;> rfl

theorem owed_failed (c : Collector σ) (run : Run) (e : FetchError) (phases : List Phase) (counter : Counter) :
    c.owed [.ok (.failed run e phases)] counter = if .jobFailures = counter then 1 else 0 := by
  cases counter <;> rfl

theorem owed_completed {c : Collector σ} {report : JobReport} (found : c.jobs.get? report.job = some j) (run : Run)
    (phases : List Phase) (counter : Counter) :
    c.owed [.ok (.completed run report phases)] counter = report.share j.source counter := by
  have reported : reports [.ok (.completed run report phases)] = [report] := rfl
  have by_ (provider : Provider) : c.reportsBy provider [.ok (.completed run report phases)] =
      if j.source.provider = provider then [report] else [] := by
    simp [reportsBy, reported, List.filter_cons, found]
  have from_ (sourceType : SourceType) : c.reportsFrom sourceType [.ok (.completed run report phases)] =
      if j.source.sourceType = sourceType then [report] else [] := by
    simp [reportsFrom, reported, List.filter_cons, found]
  cases counter with
  | fetched provider =>
    simp only [owed, by_, JobReport.share]
    split <;> simp
  | accepted sourceType | skipped sourceType | failed sourceType =>
    simp only [owed, from_, JobReport.share]
    split <;> simp
  | dropped | feedFailures => simp [owed, reported, JobReport.share]
  | jobFailures | ticks => rfl

section
variable {c : Collector σ} {source : Source} {run : Run} {w : World σ} {batch : Batch}

-- What the source answers once the listeners know of the start.
def asked (c : Collector σ) (source : Source) (run : Run) (w : World σ) : Fetched :=
  (source.fetch run (Listener.announce c.listeners (.starting run) w).network).1

theorem fetchFor_result (c : Collector σ) (source : Source) (run : Run) (w : World σ) :
    (c.fetchFor source run w).1 = (c.asked source run w).result := rfl

theorem fetchFor_count (c : Collector σ) (source : Source) (run : Run) (w : World σ) (counter : Counter) :
    (c.fetchFor source run w).2.journal.count counter =
      w.journal.count counter + Note.total counter (c.asked source run w).notes := by
  rw [fetchFor, World.note_count]
  exact congrArg (· + _) (Listener.announce_count c.listeners (.starting run) w counter)

-- A fetch that fails has counted nothing, however far it came.
theorem fetchFor_failed (accounted : source.Accounted) (failed : (c.fetchFor source run w).1 = .error e)
    (counter : Counter) : (c.fetchFor source run w).2.journal.count counter = w.journal.count counter := by
  have told : (c.asked source run w).Accounted source.provider source.sourceType := accounted _ _
  rw [fetchFor_result] at failed
  rw [fetchFor_count]
  generalize c.asked source run w = fetched at *
  cases told with
  | failed e uncounted => rw [uncounted, Nat.add_zero]
  | brought => cases failed

theorem fetchFor_brought (accounted : source.Accounted) (brought : (c.fetchFor source run w).1 = .ok batch) :
    (∀ counter, (c.fetchFor source run w).2.journal.count counter =
      w.journal.count counter + batch.share source.provider counter) ∧
      ∀ raw ∈ batch.items, raw.sourceType = source.sourceType := by
  have told : (c.asked source run w).Accounted source.provider source.sourceType := accounted _ _
  have counts := c.fetchFor_count source run w
  rw [fetchFor_result] at brought
  generalize c.asked source run w = fetched at *
  cases told with
  | failed => cases brought
  | brought batch counted ofType =>
    cases brought
    exact ⟨fun counter => by rw [counts, counted], ofType⟩

-- From the fetch to the end of the run, what was dropped and what came to the store is counted.
theorem conclude_count (c : Collector σ) (source : Source) (now : Instant) (run : Run) (batch : Batch)
    (phases : List Phase) (w : World σ) (counter : Counter) :
    let report := c.reportFor source now run batch w
    (c.conclude source now run batch phases w).2.journal.count counter + batch.share source.provider counter =
      w.journal.count counter + report.share source counter := by
  intro report
  have written : Note.total counter ((c.deliveryFor source run.job).countNotes report.written) =
      (if .accepted source.sourceType = counter then report.written.accepted else 0) +
        (if .skipped source.sourceType = counter then report.written.skipped else 0) +
        (if .failed source.sourceType = counter then report.written.failed else 0) := by
    simp [Delivery.countNotes, deliveryFor, Nat.add_assoc]
  have counted : (c.delivered source now run batch w).2.journal.count counter =
      w.journal.count counter + (if .dropped = counter then report.dropped else 0) +
        Note.total counter ((c.deliveryFor source run.job).countNotes report.written) := by
    rw [delivered, Delivery.write_count, World.note_count, droppedNotes_total, sift_dropped]
    rfl
  have fetched : batch.items.length = report.fetched := rfl
  have failedFeeds : batch.failedFeeds = report.failedFeeds := rfl
  rw [conclude_eq]
  simp only [Listener.announce_count, World.note_count, counted, written]
  cases counter <;> simp [Batch.share, JobReport.share, fetched, failedFeeds]

end

variable {c : Collector Shelf} {source : Source} {run : Run} {w after : World Shelf} {batch : Batch}

-- From one world to another, the counters and the shelf have moved by what the reports say, and what the reports say is
-- balanced.
structure Booked (c : Collector Shelf) (w : World Shelf) (answers : List (Except UnknownJob Outcome))
    (after : World Shelf) : Prop where
  counted : ∀ counter, after.journal.count counter = w.journal.count counter + c.owed answers counter
  stocked : ∀ sourceType, after.store.stock sourceType = w.store.stock sourceType + c.owed answers (.accepted sourceType)
  balanced : Balanced (c.owed answers)

theorem Booked.nothing (c : Collector Shelf) (w : World Shelf) : c.Booked w [] w :=
  ⟨fun counter => by rw [owed_nothing, Nat.add_zero], fun sourceType => by rw [owed_nothing, Nat.add_zero], rfl⟩

theorem Booked.append (first : c.Booked w early between) (second : c.Booked between late after) :
    c.Booked w (early ++ late) after := by
  refine ⟨fun counter => ?_, fun sourceType => ?_, ?_⟩
  · rw [second.counted, first.counted, owed_append, Nat.add_assoc]
  · rw [second.stocked, first.stocked, owed_append, Nat.add_assoc]
  · rw [funext (c.owed_append early late)]
    exact first.balanced.add second.balanced

theorem owed_conclude (found : c.jobs.get? run.job = some j) (now : Instant) (batch : Batch) (phases : List Phase)
    (w : World Shelf) (counter : Counter) :
    c.owed [.ok (c.conclude j.source now run batch phases w).1] counter =
      (c.reportFor j.source now run batch w).share j.source counter := by
  rw [conclude_eq]
  exact owed_completed found run _ counter

theorem conclude_stock (onShelf : c.sink = Shelf.sink) (ofType : ∀ raw ∈ batch.items, raw.sourceType = source.sourceType)
    (now : Instant) (run : Run) (phases : List Phase) (w : World Shelf) (sourceType : SourceType) :
    (c.conclude source now run batch phases w).2.store.stock sourceType =
      w.store.stock sourceType + (c.reportFor source now run batch w).share source (.accepted sourceType) := by
  rw [conclude_store]
  simp only [JobReport.share, reportFor, delivered, onShelf]
  exact Shelf.offerAll_stock _ (normalized_ofType ofType source.provider now) (w.note _) sourceType

theorem launch_booked (onShelf : c.sink = Shelf.sink) (accounted : j.source.Accounted)
    (found : c.jobs.get? run.job = some j) (now : Instant) (w : World Shelf) :
    c.Booked w [.ok (c.launch j.source now run w).1] (c.launch j.source now run w).2 := by
  have store := c.fetchFor_store j.source run w
  cases result : (c.fetchFor j.source run w).1 with
  | error e =>
    rw [launch_failed result]
    refine ⟨fun counter => ?_, fun sourceType => ?_, rfl⟩
    · rw [abandon, Listener.announce_count, World.note_count, fetchFor_failed accounted result, owed_failed]
      simp
    · rw [abandon_store, store, abandon, owed_failed]
      rfl
  | ok batch =>
    obtain ⟨counted, ofType⟩ := fetchFor_brought accounted result
    rw [launch_fetched result]
    refine ⟨fun counter => ?_, fun sourceType => ?_, ?_⟩
    · have begun := counted counter
      have concluded := c.conclude_count j.source now run batch [.started, .fetching] (c.fetchFor j.source run w).2 counter
      rw [owed_conclude found]
      simp only at concluded
      omega
    · rw [conclude_stock onShelf ofType, owed_conclude found, store]
    · rw [funext (owed_conclude found now batch _ _)]
      exact JobReport.share_balanced j.source (c.reportFor_balance j.source now run batch _)

theorem runJob_booked (onShelf : c.sink = Shelf.sink) (accounted : Registry.Accounted c.jobs) (call : JobCall)
    (w : World Shelf) :
    c.Booked w [(c.runJob call.now call.job call.prior call.supplied w).1]
      (c.runJob call.now call.job call.prior call.supplied w).2 := by
  cases found : c.jobs.get? call.job with
  | none =>
    rw [runJob_unknown found]
    refine ⟨fun counter => ?_, fun sourceType => ?_, rfl⟩
    all_goals rw [owed_unknown, Nat.add_zero]
  | some j =>
    rw [runJob_registered found]
    exact launch_booked onShelf (accounted call.job j found) found call.now w

theorem runJobs_booked (onShelf : c.sink = Shelf.sink) (accounted : Registry.Accounted c.jobs) (calls : List JobCall)
    (w : World Shelf) : c.Booked w (c.runJobs calls w).1 (c.runJobs calls w).2 := by
  induction calls generalizing w with
  | nil => exact .nothing c w
  | cons call rest ih => exact (runJob_booked onShelf accounted call w).append (ih _)

-- Runs of the jobs of any settings, in any sequence and with whatever answers, from counters at nothing and a shelf
-- without items. The counters are the sums of the reports and the failed runs, and what was accepted of a type stands on
-- the shelf. So whenever no job is running, everything fetched has been dropped or has been accepted, skipped or failed.
theorem runJobs_figures (built : Registry.build settings = .ok (c.jobs, said)) (onShelf : c.sink = Shelf.sink)
    (zero : ∀ counter, w.journal.count counter = 0) (bare : w.store.stored = []) (calls : List JobCall) :
    let done := c.runJobs calls w
    let count := done.2.journal.count
    (∀ provider, count (.fetched provider) = ((c.reportsBy provider done.1).map fun report => report.fetched).sum) ∧
      (∀ sourceType,
        let ofType := c.reportsFrom sourceType done.1
        count (.accepted sourceType) = (ofType.map fun report => report.written.accepted).sum ∧
          count (.skipped sourceType) = (ofType.map fun report => report.written.skipped).sum ∧
          count (.failed sourceType) = (ofType.map fun report => report.written.failed).sum ∧
          count (.accepted sourceType) = done.2.store.stock sourceType) ∧
      count .dropped = ((reports done.1).map fun report => report.dropped).sum ∧
      count .feedFailures = ((reports done.1).map fun report => report.failedFeeds).sum ∧
      count .jobFailures = done.1.countP isFailure ∧
      (Provider.all.map fun provider => count (.fetched provider)).sum = count .dropped +
        (SourceType.all.map fun sourceType =>
          count (.accepted sourceType) + count (.skipped sourceType) + count (.failed sourceType)).sum := by
  intro done count
  have booked : c.Booked w done.1 done.2 := runJobs_booked onShelf (Registry.build_accounted built) calls w
  have counted (counter : Counter) : count counter = c.owed done.1 counter := by
    rw [← Nat.zero_add (c.owed done.1 counter), ← zero counter]
    exact booked.counted counter
  have stocked (sourceType : SourceType) : done.2.store.stock sourceType = c.owed done.1 (.accepted sourceType) := by
    have none_ : w.store.stock sourceType = 0 := by rw [Shelf.stock, bare]; rfl
    rw [booked.stocked, none_, Nat.zero_add]
  have balanced : Balanced count := by
    rw [funext counted]
    exact booked.balanced
  refine ⟨fun provider => counted _, fun sourceType => ⟨counted _, counted _, counted _, ?_⟩, counted _, counted _,
    counted _, balanced⟩
  rw [counted, stocked]

-- One article without a title, one of two feeds that is no feed, a source that is down the second time, and a job that
-- nobody registered.
theorem runJobs_figures_partly :
    let dev := SourceSpec.devTo none 30 none
    let entries := "<rss><channel><item><guid>x</guid><title>B</title></item></channel></rss>"
    let feeds := SourceSpec.rss [⟨"a", .held entries⟩, ⟨"b", .held ""⟩]
    let settings : Settings := ⟨.standard, ⟨15, 5, "c"⟩, .standard,
      [⟨"dev", true, Keyed.empty, dev⟩, ⟨"feeds", true, Keyed.empty, feeds⟩]⟩
    let jobs : Registry := (Keyed.empty.insert "dev" ⟨dev.source ⟨"c"⟩, Keyed.empty⟩).insert "feeds"
      ⟨feeds.source ⟨"c"⟩, Keyed.empty⟩
    let c : Collector Shelf := ⟨jobs, Shelf.sink, [.logging], .draft⟩
    let articles := "[\x7b\"id\": 1, \"title\": \"A\"\x7d, \x7b\"id\": 2\x7d]"
    let w := World.start ⟨true, true, [.reply 200 (Text.utf8 articles) true, .closed], []⟩ Shelf.empty
    let calls : List JobCall := ["dev", "feeds", "dev", "none"].map fun job => ⟨.epoch, job, none, Keyed.empty⟩
    (∃ said, Registry.build settings = .ok (c.jobs, said)) ∧
      (reports (c.runJobs calls w).1).map (fun report => (report.fetched, report.dropped, report.failedFeeds)) =
        [(2, 1, 0), (1, 0, 1)] ∧
      (c.runJobs calls w).2.journal.count (.fetched .devTo) = 2 ∧
      (c.runJobs calls w).2.journal.count (.accepted .rss) = (c.runJobs calls w).2.store.stock .rss ∧
      (c.runJobs calls w).2.journal.count .jobFailures = 1 ∧
      (Provider.all.map fun provider => (c.runJobs calls w).2.journal.count (.fetched provider)).sum =
        (c.runJobs calls w).2.journal.count .dropped + (SourceType.all.map fun sourceType =>
          (c.runJobs calls w).2.journal.count (.accepted sourceType) +
          (c.runJobs calls w).2.journal.count (.skipped sourceType) +
          (c.runJobs calls w).2.journal.count (.failed sourceType)).sum := by
  intro dev entries feeds settings jobs c articles w calls
  have client : settings.http.client? = some ⟨"c"⟩ := by decide +kernel
  have built : ∃ said, Registry.build settings = .ok (c.jobs, said) := by
    simp only [Registry.build, settings, Registry.addAll, client]
    exact ⟨_, rfl⟩
  obtain ⟨said, ready⟩ := built
  obtain ⟨fetched, written, dropped, feedFailures, jobFailures, balanced⟩ :=
    runJobs_figures ready (rfl : c.sink = Shelf.sink) (fun _ => rfl : ∀ counter, w.journal.count counter = 0)
      (rfl : w.store.stored = []) calls
  have evaluated : ((reports (c.runJobs calls w).1).map fun report => (report.fetched, report.dropped, report.failedFeeds),
      ((c.reportsBy .devTo (c.runJobs calls w).1).map fun report => report.fetched).sum,
      (c.runJobs calls w).1.countP isFailure) = ([(2, 1, 0), (1, 0, 1)], 2, 1) := by decide +kernel
  obtain ⟨reported, rest⟩ := Prod.mk.inj evaluated
  obtain ⟨articles_, failures⟩ := Prod.mk.inj rest
  exact ⟨⟨said, ready⟩, reported, (fetched .devTo).trans articles_, (written .rss).2.2.2, jobFailures.trans failures,
    balanced⟩

end Collector
end Harvester
