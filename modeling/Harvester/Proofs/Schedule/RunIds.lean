import Harvester.Schedule
import Harvester.Proofs.Collector.Contract
import Harvester.Proofs.History.Mirror
import Harvester.Proofs.Schedule.Succession
namespace Harvester

variable {σ η : Type}

-- The histories there are, with the table each of them begins with: any table in memory, or a file that is missing,
-- blank or readable.
inductive History.Opens : {η : Type} → History η → η → LastRuns → Prop
  | memory (runs : LastRuns) : Opens .memory runs runs
  | file {path : String} {disk : Disk} {runs : LastRuns} (named : path ≠ "") (read : readFile path disk = .ok runs) :
      Opens (.file path) disk runs

theorem History.Opens.mirrored {history : History η} (opens : Opens history past runs) :
    ∃ stands, history.Mirrors stands ∧ stands past runs := by
  cases opens with
  | memory => exact ⟨Eq, memory_mirrors, rfl⟩
  | @file path _ _ named read => exact ⟨Holds path, file_mirrors path, named, read⟩

-- What a scheduler is asked for: one job, or all of them.
inductive Order
  | one (job : String) (now : Instant)
  | all (now : Instant)

-- The events among others that tell of a start.
def starts (events : List Event) : List Event := events.filter fun event => event.occasion == .starting

namespace Collector

-- The jobs an order is about, in turn.
def jobsOf (c : Collector σ) : Order → List String
  | .one job _ => [job]
  | .all _ => c.jobs.keys

def carryOut (c : Collector σ) (history : History η) (w : World σ) (past : η) :
    Order → List (Except NotRun Outcome) × World σ × η
  | .one job now =>
    let (answer, after, present) := c.runOne history now job w past
    ([answer], after, present)
  | .all now =>
    let (outcomes, after, present) := c.runAll history now w past
    (outcomes.map .ok, after, present)

def carryOutAll (c : Collector σ) (history : History η) :
    List Order → World σ → η → List (Except NotRun Outcome) × World σ × η
  | [], w, past => ([], w, past)
  | order :: rest, w, past =>
    let (answers, after, present) := c.carryOut history w past order
    let (others, last, final) := c.carryOutAll history rest after present
    (answers ++ others, last, final)

-- Every job of a list was launched, one after the other: the runs follow each other from one table of last runs to
-- another, and every listener was told of every start.
structure Launched (c : Collector σ) (names : List String) (w : World σ) (runs : LastRuns) (outcomes : List Outcome)
    (after : World σ) (kept : LastRuns) : Prop where
  inTurn : (outcomes.map fun outcome => outcome.run.job) = names
  succession : Succession runs (outcomes.map Outcome.run) kept
  heard : ∀ listener < c.listeners.length, ∃ events,
    after.journal.heard listener = w.journal.heard listener ++ events ∧
      starts events = outcomes.map fun outcome => .starting outcome.run

variable {c : Collector σ} {history : History η} {stands : η → LastRuns → Prop} {past : η} {runs : LastRuns}

theorem Launched.nothing (c : Collector σ) (w : World σ) (runs : LastRuns) : c.Launched [] w runs [] w runs :=
  ⟨rfl, .none runs, fun _ _ => ⟨[], (List.append_nil _).symm, rfl⟩⟩

theorem Launched.append (first : c.Launched early w runs outcomes between table)
    (second : c.Launched late between table others after kept) :
    c.Launched (early ++ late) w runs (outcomes ++ others) after kept := by
  refine ⟨?_, ?_, fun listener present => ?_⟩
  · rw [List.map_append, first.inTurn, second.inTurn]
  · rw [List.map_append]
    exact first.succession.append second.succession
  · obtain ⟨events, heard, told⟩ := first.heard listener present
    obtain ⟨more, heardLate, toldLate⟩ := second.heard listener present
    refine ⟨events ++ more, by rw [heardLate, heard, List.append_assoc], ?_⟩
    rw [List.map_append, ← told, ← toldLate, starts, List.filter_append]
    rfl

theorem launch_launched (c : Collector σ) (source : Source) (now : Instant) (job : String) (supplied : Parameters)
    (w : World σ) (runs : LastRuns) :
    let run := Run.following job (runs.get? job) supplied
    c.Launched [job] w runs [(c.launch source now run w).1] (c.launch source now run w).2
      (runs.insert job run.toParameters) := by
  intro run
  refine ⟨?_, ?_, fun listener present => ?_⟩
  · rw [List.map_singleton, launch_run]
    rfl
  · rw [List.map_singleton, launch_run]
    exact .more run rfl (.none _)
  · obtain ⟨ending, ended, heard⟩ := launch_heard present source now run w
    refine ⟨_, heard, ?_⟩
    rw [List.map_singleton, launch_run]
    simp [starts, ended, Event.starting, Event.ofRun]

theorem runOne_recorded (last : history.last job past = .ok prior)
    (ran : c.runJob now job prior (suppliedAt now) w = (.ok outcome, after))
    (recorded : history.record job outcome.run.toParameters past = (.ok (), present)) :
    c.runOne history now job w past = (.ok outcome, after, present) := by
  simp only [runOne, last, ran, recorded]
  rfl

-- A registered job is launched with what the history holds of it, and its parameters are kept.
theorem runOne_registered (mirrors : history.Mirrors stands) (same : stands past runs) (found : c.jobs.get? job = some j)
    (now : Instant) (w : World σ) :
    let run := Run.following job (runs.get? job) (j.defaults.overlay (suppliedAt now))
    ∃ present, stands present (runs.insert job run.toParameters) ∧
      c.runOne history now job w past = (.ok (c.launch j.source now run w).1, (c.launch j.source now run w).2, present) := by
  intro run
  obtain ⟨present, recorded, still⟩ := mirrors.record same job run.toParameters
  have ran := runJob_registered found now (runs.get? job) (suppliedAt now) w
  refine ⟨present, still, runOne_recorded (mirrors.last same job) ran ?_⟩
  rw [launch_run]
  exact recorded

theorem runOne_launched (mirrors : history.Mirrors stands) (same : stands past runs)
    (registered : ∃ j, c.jobs.get? job = some j) (now : Instant) (w : World σ) :
    ∃ outcome after present kept, c.runOne history now job w past = (.ok outcome, after, present) ∧
      stands present kept ∧ c.Launched [job] w runs [outcome] after kept := by
  obtain ⟨j, found⟩ := registered
  obtain ⟨present, still, ran⟩ := runOne_registered mirrors same found now w
  exact ⟨_, _, present, _, ran, still, c.launch_launched j.source now job _ w runs⟩

theorem runEach_launched (mirrors : history.Mirrors stands) (same : stands past runs) {names : List String}
    (registered : ∀ job ∈ names, ∃ j, c.jobs.get? job = some j) (now : Instant) (w : World σ) :
    ∃ outcomes after present kept, c.runEach history now names w past = (outcomes, after, present) ∧
      stands present kept ∧ c.Launched names w runs outcomes after kept := by
  induction names generalizing past runs w with
  | nil => exact ⟨[], w, past, runs, rfl, same, .nothing c w runs⟩
  | cons job rest ih =>
    obtain ⟨outcome, between, present, table, ran, still, first⟩ :=
      runOne_launched mirrors same (registered job List.mem_cons_self) now w
    obtain ⟨outcomes, after, final, kept, others, atLast, second⟩ :=
      ih still (fun other later => registered other (List.mem_cons_of_mem job later)) between
    exact ⟨outcome :: outcomes, after, final, kept, by simp only [runEach, ran, others], atLast, first.append second⟩

theorem carryOut_launched (mirrors : history.Mirrors stands) (same : stands past runs) {order : Order}
    (registered : ∀ job now, order = .one job now → ∃ j, c.jobs.get? job = some j) (w : World σ) :
    ∃ outcomes after present kept, c.carryOut history w past order = (outcomes.map .ok, after, present) ∧
      stands present kept ∧ c.Launched (c.jobsOf order) w runs outcomes after kept := by
  cases order with
  | one job now =>
    obtain ⟨outcome, after, present, kept, ran, still, launched⟩ :=
      runOne_launched mirrors same (registered job now rfl) now w
    exact ⟨[outcome], after, present, kept, by simp only [carryOut, ran, List.map_singleton], still, launched⟩
  | all now =>
    obtain ⟨outcomes, after, present, kept, ran, still, launched⟩ :=
      runEach_launched mirrors same (fun job present => Keyed.get?_of_mem_keys present) now w
    exact ⟨outcomes, after, present, kept, by simp only [carryOut, runAll, ran], still, launched⟩

theorem carryOutAll_launched (mirrors : history.Mirrors stands) (same : stands past runs) {orders : List Order}
    (registered : ∀ job now, .one job now ∈ orders → ∃ j, c.jobs.get? job = some j) (w : World σ) :
    ∃ outcomes after present kept, c.carryOutAll history orders w past = (outcomes.map .ok, after, present) ∧
      stands present kept ∧ c.Launched (orders.flatMap c.jobsOf) w runs outcomes after kept := by
  induction orders generalizing past runs w with
  | nil => exact ⟨[], w, past, runs, rfl, same, .nothing c w runs⟩
  | cons order rest ih =>
    obtain ⟨outcomes, between, present, table, ran, still, first⟩ :=
      carryOut_launched mirrors same (fun job now here => registered job now (here ▸ List.mem_cons_self)) w
    obtain ⟨others, after, final, kept, ranLater, atLast, second⟩ :=
      ih still (fun job now later => registered job now (List.mem_cons_of_mem order later)) between
    refine ⟨outcomes ++ others, after, final, kept, ?_, atLast, ?_⟩
    · simp only [carryOutAll, ran, ranLater, List.map_append]
    · rw [List.flatMap_cons]
      exact first.append second

-- Orders about registered jobs, in any sequence and however the runs end. Every job is launched in its turn; the ids of
-- a job count on from the remembered one and stay at the largest once they are there; and below it no two starts of the
-- whole sequence carry the same job id.
theorem carryOutAll_run_ids (opens : History.Opens history past runs) {orders : List Order}
    (registered : ∀ job now, .one job now ∈ orders → ∃ j, c.jobs.get? job = some j) (w : World σ) :
    let done := c.carryOutAll history orders w past
    ∃ outcomes : List Outcome, done.1 = outcomes.map .ok ∧
      (outcomes.map fun outcome => outcome.run.job) = orders.flatMap c.jobsOf ∧
      (∀ job,
        let ids := Succession.idsOf job (outcomes.map Outcome.run)
        (∀ (k : Nat) number, ids[k]? = some number → number = min (runs.lastId job + (k + 1)) Int.maxLong) ∧
        ∀ (k : Nat) number next, ids[k]? = some number → ids[k + 1]? = some next → number < Int.maxLong →
          next = number + 1) ∧
      ∀ listener < c.listeners.length, ∃ events,
        done.2.1.journal.heard listener = w.journal.heard listener ++ events ∧
        (starts events = outcomes.map fun outcome => .starting outcome.run) ∧
        (starts events).Pairwise fun e f => e.runId.value < Int.maxLong → e.jobId ≠ f.jobId := by
  intro done
  obtain ⟨stands, mirrors, same⟩ := opens.mirrored
  obtain ⟨outcomes, after, present, kept, ran, _, launched⟩ := carryOutAll_launched mirrors same registered w
  have answered : done = (outcomes.map .ok, after, present) := ran
  rw [answered]
  refine ⟨outcomes, rfl, launched.inTurn, fun job => ⟨fun k number => launched.succession.idsOf_get job, ?_⟩, ?_⟩
  · intro k number next nth succeeding below
    have first := launched.succession.idsOf_get job nth
    have second := launched.succession.idsOf_get job succeeding
    omega
  · intro listener listens
    obtain ⟨events, heard, told⟩ := launched.heard listener listens
    refine ⟨events, heard, told, ?_⟩
    rw [told, List.pairwise_map]
    exact List.pairwise_map.mp launched.succession.jobIds_apart

-- A name that looks like the job id of another job, an id kept as a text, and a source that is down.
theorem carryOutAll_run_ids_alike :
    let down : Job := ⟨.constant .rss .rss (.error (.remote "gone")), Keyed.empty⟩
    let up : Job := ⟨.constant .atcoder .scrape (.ok ⟨[], 0⟩), Keyed.empty⟩
    let c : Collector Shelf := ⟨(Keyed.empty.insert "a" down).insert "a#4" up, Shelf.sink, [.logging], .draft⟩
    let runs : LastRuns := Keyed.empty.insert "a" (Keyed.empty.insert runIdKey (.text " 41"))
    let w := World.start Http.Network.offline Shelf.empty
    let done := c.carryOutAll .memory [.one "a" .epoch, .all .epoch] w runs
    runs.lastId "a" = 41 ∧ (starts (done.2.1.journal.heard 0)).map Event.jobId = ["a#42", "a#43", "a#4#1"] ∧
      ∃ outcomes : List Outcome, done.1 = outcomes.map .ok ∧
        (outcomes.map fun outcome => outcome.run.job) = ["a", "a", "a#4"] ∧
        ∀ (k : Nat) number, (Succession.idsOf "a" (outcomes.map Outcome.run))[k]? = some number →
          number = min ((41 : Int) + (k + 1)) Int.maxLong := by
  intro down up c runs w done
  have registered (job : String) (now : Instant) (present : .one job now ∈ [Order.one "a" .epoch, .all .epoch]) :
      ∃ j, c.jobs.get? job = some j := by
    rcases List.mem_cons.mp present with here | later
    · cases here
      exact ⟨down, rfl⟩
    · cases List.mem_singleton.mp later
  obtain ⟨outcomes, answered, inTurn, numbered, _⟩ := carryOutAll_run_ids (.memory runs) registered w
  have remembered : runs.lastId "a" = 41 := by decide +kernel
  refine ⟨remembered, by decide +kernel, outcomes, answered, inTurn, ?_⟩
  rw [← remembered]
  exact (numbered "a").1

end Collector
end Harvester
