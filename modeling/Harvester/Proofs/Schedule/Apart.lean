import Harvester.Proofs.Collector.Batch
import Harvester.Proofs.Schedule.RunIds
import Harvester.Proofs.Text.ByteOrder
namespace Harvester

-- A source whose answer hangs on the run alone.
def Source.Steady (source : Source) : Prop :=
  ∀ run network other, (source.fetch run network).1.result = (source.fetch run other).1.result

structure JobReport.Agrees (r s : JobReport) : Prop where
  job : r.job = s.job
  runId : r.runId = s.runId
  fetched : r.fetched = s.fetched
  dropped : r.dropped = s.dropped
  failedFeeds : r.failedFeeds = s.failedFeeds
  written : r.written.Agrees s.written

-- The same run with the same end, up to what of its items was new to the store.
inductive Outcome.Agrees : Outcome → Outcome → Prop
  | completed (run : Run) (phases : List Phase) (reports : JobReport.Agrees r s) :
      Agrees (.completed run r phases) (.completed run s phases)
  | failed (run : Run) (e : FetchError) (phases : List Phase) : Agrees (.failed run e phases) (.failed run e phases)

namespace Succession

theorem untouched (succession : Succession runs launched kept) (absent : job ∉ launched.map Run.job) :
    kept.get? job = runs.get? job := by
  induction succession with
  | none => rfl
  | more run _ _ ih =>
    obtain ⟨other, later⟩ := not_or.mp fun either => absent (List.mem_cons.mpr either)
    rw [ih later, Keyed.get?_insert, if_neg (Ne.symm other)]

-- Where no job runs twice, the parameters of every run are still there at the end.
theorem latest (succession : Succession runs launched kept) (distinct : (launched.map Run.job).Nodup) :
    ∀ run ∈ launched, kept.get? run.job = some run.toParameters := by
  induction succession with
  | none => exact fun _ present => absurd present List.not_mem_nil
  | more first _ rest ih =>
    obtain ⟨once, others⟩ := List.nodup_cons.mp distinct
    intro run present
    rcases List.mem_cons.mp present with rfl | later
    · rw [rest.untouched once, Keyed.get?_insert, if_pos rfl]
    · exact ih others run later

end Succession

namespace Collector

variable {c another : Collector Shelf} {source : Source} {now : Instant} {run : Run} {w v : World Shelf}

theorem launch_agrees (onShelf : c.sink = Shelf.sink) (onShelfToo : another.sink = Shelf.sink) (steady : source.Steady)
    (failing : w.store.failing = v.store.failing) :
    (c.launch source now run w).1.Agrees (another.launch source now run v).1 := by
  have fetched : (c.fetchFor source run w).1 = (another.fetchFor source run v).1 := by
    rw [fetchFor, fetchFor]
    exact steady run _ _
  cases result : (c.fetchFor source run w).1 with
  | error e =>
    rw [launch_failed result, launch_failed (fetched ▸ result)]
    exact .failed run e _
  | ok batch =>
    rw [launch_fetched result, launch_fetched (fetched ▸ result), conclude_eq, conclude_eq]
    refine .completed run _ ⟨rfl, rfl, rfl, rfl, rfl, delivered_agrees onShelf onShelfToo rfl rfl ?_⟩
    rw [fetchFor_store, fetchFor_store, failing]

theorem launch_keeps_failing (onShelf : c.sink = Shelf.sink) (source : Source) (now : Instant) (run : Run)
    (w : World Shelf) : (c.launch source now run w).2.store.failing = w.store.failing := by
  obtain ⟨fresh, grows, _⟩ := Shelf.launch_grows onShelf source now run w
  exact grows.failing

variable {η : Type} {history : History η} {stands : η → LastRuns → Prop} {past : η} {runs : LastRuns}

-- When a job's turn comes, the jobs before it have left the history of the job and the failing ids as they were.
theorem runEach_outcome (mirrors : history.Mirrors stands) (onShelf : c.sink = Shelf.sink) (same : stands past runs)
    {names : List String} (registered : ∀ job ∈ names, ∃ j, c.jobs.get? job = some j) (distinct : names.Nodup)
    (present : job ∈ names) (found : c.jobs.get? job = some j) (now : Instant) (w : World Shelf) :
    ∃ before : World Shelf, before.store.failing = w.store.failing ∧
      (c.runEach history now names w past).1.filter (fun outcome => outcome.run.job == job) =
        [(c.launch j.source now (.following job (runs.get? job) (j.defaults.overlay (suppliedAt now))) before).1] := by
  induction names generalizing past runs w with
  | nil => cases present
  | cons first rest ih =>
    obtain ⟨once, others⟩ := List.nodup_cons.mp distinct
    obtain ⟨k, foundFirst⟩ := registered first List.mem_cons_self
    have registeredRest : ∀ other ∈ rest, ∃ j, c.jobs.get? other = some j :=
      fun other later => registered other (List.mem_cons_of_mem first later)
    let run := Run.following first (runs.get? first) (k.defaults.overlay (suppliedAt now))
    let after := (c.launch k.source now run w).2
    obtain ⟨between, still, ran⟩ := runOne_registered mirrors same foundFirst now w
    have unrolled : (c.runEach history now (first :: rest) w past).1 =
        (c.launch k.source now run w).1 :: (c.runEach history now rest after between).1 := by
      simp only [runEach, ran]
      rfl
    have turn : (c.launch k.source now run w).1.run.job = first := by
      rw [launch_run]
      rfl
    rw [unrolled, List.filter_cons, turn]
    rcases List.mem_cons.mp present with here | later
    · obtain ⟨outcomes, _, _, _, ranRest, _, launched⟩ := runEach_launched mirrors still registeredRest now after
      have none_ : outcomes.filter (fun outcome => outcome.run.job == job) = [] := by
        rw [List.filter_eq_nil_iff]
        intro outcome member hit
        have turnLater : outcome.run.job ∈ rest := launched.inTurn ▸ List.mem_map_of_mem member
        exact once (here ▸ beq_iff_eq.mp hit ▸ turnLater)
      subst here
      cases found.symm.trans foundFirst
      exact ⟨w, rfl, by rw [if_pos (beq_self_eq_true job), ranRest, none_]⟩
    · have apart : first ≠ job := fun same => once (same ▸ later)
      obtain ⟨before, failing, outcome⟩ := ih still registeredRest others later after
      rw [Keyed.get?_insert, if_neg apart] at outcome
      refine ⟨before, failing.trans (launch_keeps_failing onShelf _ _ _ _), ?_⟩
      rw [if_neg (by simpa using apart)]
      exact outcome

-- One pass over all jobs. Every job has its one outcome, in the order of the bytes of the names, and is remembered by
-- it; what the history holds of other jobs stays. And a job of a steady source fares alike in every pass from that
-- history, whatever the other jobs of the pass are and do, wherever the same ids fail.
theorem runAll_apart (opens : History.Opens history past runs) (onShelf : c.sink = Shelf.sink) (now : Instant)
    (w : World Shelf) :
    let done := c.runAll history now w past
    (done.1.map fun outcome => outcome.run.job) = c.jobs.keys ∧
      (done.1.Pairwise fun first second => Text.utf8 first.run.job < Text.utf8 second.run.job) ∧
      (∀ outcome ∈ done.1, history.last outcome.run.job done.2.2 = .ok (some outcome.run.toParameters)) ∧
      (∀ job ∉ c.jobs.keys, history.last job done.2.2 = history.last job past) ∧
      ∀ (another : Collector Shelf) (v : World Shelf), another.sink = Shelf.sink →
        v.store.failing = w.store.failing →
        ∀ job j, c.jobs.get? job = some j → another.jobs.get? job = some j → j.source.Steady →
          ∃ first second, done.1.filter (fun outcome => outcome.run.job == job) = [first] ∧
            (another.runAll history now v past).1.filter (fun outcome => outcome.run.job == job) = [second] ∧
            first.Agrees second := by
  intro done
  obtain ⟨stands, mirrors, same⟩ := opens.mirrored
  obtain ⟨outcomes, after, present, kept, ran, still, launched⟩ :=
    runEach_launched mirrors same (fun job present => Keyed.get?_of_mem_keys present) now w
  have passed : done = (outcomes, after, present) := ran
  have jobs : (outcomes.map Outcome.run).map Run.job = c.jobs.keys := by
    rw [List.map_map]
    exact launched.inTurn
  rw [passed]
  refine ⟨launched.inTurn, ?_, fun outcome member => ?_, fun job absent => ?_, ?_⟩
  · have ordered := c.jobs.keys_ascending
    rw [← launched.inTurn, List.pairwise_map] at ordered
    exact ordered.imp Text.utf8_lt
  · have distinct : ((outcomes.map Outcome.run).map Run.job).Nodup := jobs ▸ c.jobs.keys_nodup
    rw [mirrors.last still, launched.succession.latest distinct _ (List.mem_map_of_mem member)]
  · rw [mirrors.last still, mirrors.last same, launched.succession.untouched (jobs ▸ absent)]
  · intro another v onShelfToo failing job j found foundToo steady
    obtain ⟨before, failingBefore, outcome⟩ := runEach_outcome mirrors onShelf same
      (fun job present => Keyed.get?_of_mem_keys present) c.jobs.keys_nodup (Keyed.mem_keys_of_get? found) found now w
    obtain ⟨beforeToo, failingToo, outcomeToo⟩ := runEach_outcome mirrors onShelfToo same
      (fun job present => Keyed.get?_of_mem_keys present) another.jobs.keys_nodup (Keyed.mem_keys_of_get? foundToo)
      foundToo now v
    rw [ran] at outcome
    refine ⟨_, _, outcome, outcomeToo, launch_agrees onShelf onShelfToo steady ?_⟩
    rw [failingBefore, failingToo, failing]

-- In one pass another job has brought the item before, in the other pass the other job is down.
theorem runAll_apart_shared :
    let source (slugs : List String) : Source :=
      .constant .atcoder .scrape (.ok ⟨slugs.map fun slug => .contest ⟨slug, "A", "", none, none, none⟩, 0⟩)
    let job : Job := ⟨source ["x", "bad"], Keyed.empty⟩
    let down : Job := ⟨.constant .rss .rss (.error (.remote "gone")), Keyed.empty⟩
    let c : Collector Shelf :=
      ⟨(Keyed.empty.insert "b" job).insert "a" ⟨source ["x"], Keyed.empty⟩, Shelf.sink, [], .draft⟩
    let another : Collector Shelf := ⟨(Keyed.empty.insert "b" job).insert "z" down, Shelf.sink, [.logging], .draft⟩
    let w := World.start Http.Network.offline ⟨["bad"], [], []⟩
    let runs : LastRuns := Keyed.empty.insert "gone" Keyed.empty
    (c.runAll .memory .epoch w runs).2.2.get? "gone" = some Keyed.empty ∧
      c.jobs.get? "b" = some job ∧ another.jobs.get? "b" = some job ∧ job.source.Steady ∧
      ∃ first second,
        (c.runAll .memory .epoch w runs).1.filter (fun outcome => outcome.run.job == "b") = [first] ∧
        (another.runAll .memory .epoch w runs).1.filter (fun outcome => outcome.run.job == "b") = [second] ∧
        first.Agrees second ∧ first.report?.map JobReport.written = some ⟨0, 1, 1, ["bad"]⟩ ∧
        second.report?.map JobReport.written = some ⟨1, 0, 1, ["bad"]⟩ := by
  intro source job down c another w runs
  have found : c.jobs.get? "b" = some job := rfl
  have foundToo : another.jobs.get? "b" = some job := rfl
  have steady : job.source.Steady := fun _ _ _ => rfl
  obtain ⟨_, _, _, others, apart⟩ := runAll_apart (.memory runs) (rfl : c.sink = Shelf.sink) .epoch w
  have kept := others "gone" (by decide)
  obtain ⟨first, second, one, two, agrees⟩ := apart another w rfl rfl "b" job found foundToo steady
  have written : ((c.runAll .memory .epoch w runs).1.filter fun outcome => outcome.run.job == "b").map
      (fun outcome => outcome.report?.map JobReport.written) = [some ⟨0, 1, 1, ["bad"]⟩] := by decide +kernel
  have writtenToo : ((another.runAll .memory .epoch w runs).1.filter fun outcome => outcome.run.job == "b").map
      (fun outcome => outcome.report?.map JobReport.written) = [some ⟨1, 0, 1, ["bad"]⟩] := by decide +kernel
  rw [one] at written
  rw [two] at writtenToo
  exact ⟨Except.ok.inj kept, found, foundToo, steady, first, second, one, two, agrees, (List.cons.inj written).1,
    (List.cons.inj writtenToo).1⟩

end Collector
end Harvester
