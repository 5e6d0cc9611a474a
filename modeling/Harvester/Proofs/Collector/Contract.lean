import Harvester.Proofs.Collector.Offers
namespace Harvester

variable {σ : Type}

-- A source whose fetches all end alike.
def Source.constant (provider : Provider) (sourceType : SourceType) (result : Except FetchError Batch) : Source where
  provider := provider
  sourceType := sourceType
  fetch _ network := (⟨result, []⟩, network)

-- The items of a batch, in its order, and how many raw items came to nothing.

def normalized (provider : Provider) (now : Instant) (raws : List RawItem) : List Item :=
  raws.filterMap fun raw => (normalize raw provider now).toOption

def rejected (provider : Provider) (now : Instant) (raws : List RawItem) : Nat :=
  raws.countP fun raw => !(normalize raw provider now).isOk

theorem sift_items (provider : Provider) (now : Instant) (raws : List RawItem) :
    (sift provider now raws).items = normalized provider now raws := by
  induction raws with
  | nil => rfl
  | cons raw rest ih =>
    cases result : normalize raw provider now with
    | ok item => simp [sift, normalized, result, Except.toOption, ih]
    | error missing => simp [sift, normalized, result, Except.toOption, ih]

theorem sift_dropped (provider : Provider) (now : Instant) (raws : List RawItem) :
    (sift provider now raws).dropped.length = rejected provider now raws := by
  induction raws with
  | nil => rfl
  | cons raw rest ih =>
    cases result : normalize raw provider now with
    | ok item => simp [sift, rejected, result, Except.isOk, Except.toBool, ih]
    | error missing => simp [sift, rejected, result, Except.isOk, Except.toBool, ih]

theorem normalized_or_rejected (provider : Provider) (now : Instant) (raws : List RawItem) :
    raws.length = rejected provider now raws + (normalized provider now raws).length := by
  induction raws with
  | nil => rfl
  | cons raw rest ih =>
    cases result : normalize raw provider now with
    | ok item =>
      simp only [rejected, normalized] at ih
      simp [rejected, normalized, result, Except.toOption, Except.isOk, Except.toBool, ih]
      omega
    | error missing =>
      simp only [rejected, normalized] at ih
      simp [rejected, normalized, result, Except.toOption, Except.isOk, Except.toBool, ih]
      omega

namespace Collector

-- How the items of a source are handed over.
def deliveryFor (c : Collector σ) (source : Source) (job : String) : Delivery :=
  ⟨source.sourceType, job, c.defaultStatus⟩

-- The same collector on the watched store.
def watched (c : Collector σ) : Collector (σ × Offers) := ⟨c.jobs, c.sink.watched, c.listeners, c.defaultStatus⟩

variable {c : Collector σ} {source : Source} {now : Instant} {run : Run} {w : World σ}

@[simp] theorem fetchFor_store (c : Collector σ) (source : Source) (run : Run) (w : World σ) :
    (c.fetchFor source run w).2.store = w.store := by
  rw [fetchFor, World.note_store]
  exact Listener.announce_store c.listeners _ w

theorem fetchFor_heard (present : listener < c.listeners.length) (source : Source) (run : Run) (w : World σ) :
    (c.fetchFor source run w).2.journal.heard listener = w.journal.heard listener ++ [.starting run] := by
  rw [fetchFor, World.note_heard]
  exact Listener.announce_heard present _ w

theorem launch_failed (failed : (c.fetchFor source run w).1 = .error e) :
    c.launch source now run w = c.abandon run e [.started, .fetching] (c.fetchFor source run w).2 := by
  unfold launch
  generalize c.fetchFor source run w = fetched at failed ⊢
  obtain ⟨result, after⟩ := fetched
  subst failed
  rfl

theorem launch_fetched (brought : (c.fetchFor source run w).1 = .ok batch) :
    c.launch source now run w = c.conclude source now run batch [.started, .fetching] (c.fetchFor source run w).2 := by
  unfold launch
  generalize c.fetchFor source run w = fetched at brought ⊢
  obtain ⟨result, after⟩ := fetched
  subst brought
  rfl

theorem abandon_heard (present : listener < c.listeners.length) (run : Run) (e : FetchError) (phases : List Phase)
    (w : World σ) :
    (c.abandon run e phases w).2.journal.heard listener = w.journal.heard listener ++ [.failed run e.message] := by
  rw [abandon, Listener.announce_heard present, World.note_heard]

-- The world when the items of a batch have been written, before the report goes out.
def delivered (c : Collector σ) (source : Source) (now : Instant) (run : Run) (batch : Batch) (w : World σ) :
    Tally × World σ :=
  (c.deliveryFor source run.job).write c.sink (normalized source.provider now batch.items)
    (w.note (droppedNotes run.job (sift source.provider now batch.items).dropped))

-- The report of a batch, once its items are written.
def reportFor (c : Collector σ) (source : Source) (now : Instant) (run : Run) (batch : Batch) (w : World σ) :
    JobReport :=
  ⟨run.job, run.id, batch.items.length, rejected source.provider now batch.items, batch.failedFeeds,
    (c.delivered source now run batch w).1⟩

theorem conclude_eq (c : Collector σ) (source : Source) (now : Instant) (run : Run) (batch : Batch)
    (phases : List Phase) (w : World σ) :
    c.conclude source now run batch phases w =
      (.completed run (c.reportFor source now run batch w) (phases ++ [.normalizing, .writing, .completed]),
        Listener.announce c.listeners (.completed run (c.reportFor source now run batch w))
          ((c.delivered source now run batch w).2.note [.finished])) := by
  simp only [conclude, reportFor, delivered, deliveryFor, sift_items, sift_dropped]

theorem conclude_heard (present : listener < c.listeners.length) (source : Source) (now : Instant) (run : Run)
    (batch : Batch) (phases : List Phase) (w : World σ) :
    (c.conclude source now run batch phases w).2.journal.heard listener =
      w.journal.heard listener ++ [.completed run (c.reportFor source now run batch w)] := by
  rw [conclude_eq, Listener.announce_heard present, World.note_heard, delivered, Delivery.write_heard, World.note_heard]

@[simp] theorem abandon_store (c : Collector σ) (run : Run) (e : FetchError) (phases : List Phase) (w : World σ) :
    (c.abandon run e phases w).2.store = w.store := by
  rw [abandon, Listener.announce_store, World.note_store]

theorem conclude_store (c : Collector σ) (source : Source) (now : Instant) (run : Run) (batch : Batch)
    (phases : List Phase) (w : World σ) :
    (c.conclude source now run batch phases w).2.store = (c.delivered source now run batch w).2.store := by
  rw [conclude_eq, Listener.announce_store, World.note_store]

-- What the store is offered of a batch.
def offersOf (c : Collector σ) (source : Source) (now : Instant) (run : Run) (batch : Batch) (w : World σ) : Offers :=
  Delivery.offers c.sink (c.deliveryFor source run.job) (normalized source.provider now batch.items)
    (w.note (droppedNotes run.job (sift source.provider now batch.items).dropped))

theorem delivered_tally (c : Collector σ) (source : Source) (now : Instant) (run : Run) (batch : Batch) (w : World σ) :
    (c.delivered source now run batch w).1 = Delivery.tallied (c.offersOf source now run batch w) :=
  Delivery.offerAll_tally _ _ _ _

theorem offersOf_items (c : Collector σ) (source : Source) (now : Instant) (run : Run) (batch : Batch) (w : World σ) :
    (c.offersOf source now run batch w).map (·.1) =
      (normalized source.provider now batch.items).map (c.deliveryFor source run.job).stamp :=
  Delivery.offers_items _ _ _ _

-- Three loops, one sum: every raw item is dropped or offered, and every offer is counted once.
theorem reportFor_balance (c : Collector σ) (source : Source) (now : Instant) (run : Run) (batch : Batch)
    (w : World σ) :
    let report := c.reportFor source now run batch w
    report.fetched = report.dropped + report.written.accepted + report.written.skipped + report.written.failed := by
  have counted := Delivery.tallied_total (c.offersOf source now run batch w)
  have items := congrArg List.length (c.offersOf_items source now run batch w)
  have sorted := normalized_or_rejected source.provider now batch.items
  simp only [Tally.total, List.length_map] at counted items
  simp only [reportFor, delivered_tally]
  omega

theorem runJob_unknown (absent : c.jobs.get? job = none) (now : Instant) (prior : Option Parameters)
    (supplied : Parameters) (w : World σ) : c.runJob now job prior supplied w = (.error ⟨job⟩, w) := by
  simp [runJob, absent]

theorem runJob_registered (found : c.jobs.get? job = some j) (now : Instant) (prior : Option Parameters)
    (supplied : Parameters) (w : World σ) :
    let run := Run.following job prior (j.defaults.overlay supplied)
    c.runJob now job prior supplied w = (.ok (c.launch j.source now run w).1, (c.launch j.source now run w).2) := by
  simp [runJob, found]

theorem launch_run (c : Collector σ) (source : Source) (now : Instant) (run : Run) (w : World σ) :
    (c.launch source now run w).1.run = run := by
  cases result : (c.fetchFor source run w).1 with
  | error e =>
    rw [launch_failed result]
    rfl
  | ok batch =>
    rw [launch_fetched result, conclude_eq]
    rfl

theorem launch_failed_heard (present : listener < c.listeners.length) (failed : (c.fetchFor source run w).1 = .error e)
    (now : Instant) :
    (c.launch source now run w).2.journal.heard listener =
      w.journal.heard listener ++ [.starting run, .failed run e.message] := by
  rw [launch_failed failed, abandon_heard present, fetchFor_heard present, List.append_assoc]
  rfl

theorem launch_fetched_heard (present : listener < c.listeners.length)
    (brought : (c.fetchFor source run w).1 = .ok batch) (now : Instant) :
    (c.launch source now run w).2.journal.heard listener =
      w.journal.heard listener ++
        [.starting run, .completed run (c.reportFor source now run batch (c.fetchFor source run w).2)] := by
  rw [launch_fetched brought, conclude_heard present, fetchFor_heard present, List.append_assoc]
  rfl

-- A start and an end, whatever comes of the run.
theorem launch_heard (present : listener < c.listeners.length) (source : Source) (now : Instant) (run : Run)
    (w : World σ) :
    ∃ ending, ending.occasion ≠ .starting ∧
      (c.launch source now run w).2.journal.heard listener =
        w.journal.heard listener ++ [.starting run, ending] := by
  cases result : (c.fetchFor source run w).1 with
  | error e => exact ⟨_, Occasion.noConfusion, launch_failed_heard present result now⟩
  | ok batch => exact ⟨_, Occasion.noConfusion, launch_fetched_heard present result now⟩

end Collector

end Harvester
