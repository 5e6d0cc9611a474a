import Harvester.Proofs.Schedule.RunIds
namespace Harvester

variable {σ η θ : Type}

-- What a run draws from the defaults of its job and from what it is supplied with: the supplied value of a name, else
-- the default, else none. The names that say which run it is do not stand among its parameters.
structure Run.Draws (run : Run) (defaults supplied : Parameters) : Prop where
  other : ∀ key, key ≠ runIdKey → key ≠ baseDateKey →
    run.params.get? key = (supplied.get? key).or (defaults.get? key)
  noId : run.params.get? runIdKey = none
  noDate : run.params.get? baseDateKey = none
  date : run.baseDate = ((supplied.get? baseDateKey).or (defaults.get? baseDateKey)).map Param.toText

theorem Run.following_draws (job : String) (prior : Option Parameters) (defaults supplied : Parameters) :
    (following job prior (defaults.overlay supplied)).Draws defaults supplied := by
  refine ⟨fun key noId noDate => ?_, ?_, ?_, ?_⟩
  · simp [following, Keyed.get?_filter, Keyed.get?_overlay, noId, noDate]
  · simp [following, Keyed.get?_filter]
  · simp [following, Keyed.get?_filter]
  · simp [following, Parameters.getText?, Keyed.get?_overlay]

theorem Run.following_of_priorId (same : priorId prior = priorId other) (job : String) (supplied : Parameters) :
    following job prior supplied = following job other supplied := by
  simp only [following, same]

-- Two tables that remember the jobs of a registry by the same numbers, and some of its jobs by the same parameters.
structure LastRuns.Alike (registry : Registry) (shared : String → Prop) (runs table : LastRuns) : Prop where
  numbered : ∀ job ∈ registry.keys, Run.priorId (runs.get? job) = Run.priorId (table.get? job)
  shared : ∀ job, shared job → ∃ params, runs.get? job = some params ∧ table.get? job = some params

namespace LastRuns.Alike

variable {registry : Registry} {shared : String → Prop} {runs table : LastRuns}

-- What is recorded in both is shared from then on.
theorem insert (alike : Alike registry shared runs table) (job : String) (params : Parameters) :
    Alike registry (fun other => other = job ∨ shared other) (runs.insert job params) (table.insert job params) := by
  refine ⟨fun other present => ?_, fun other known => ?_⟩
  · rw [Keyed.get?_insert, Keyed.get?_insert]
    split
    · rfl
    · exact alike.numbered other present
  · rw [Keyed.get?_insert, Keyed.get?_insert]
    by_cases same : job = other
    · exact ⟨params, if_pos same, if_pos same⟩
    · rw [if_neg same, if_neg same]
      exact alike.shared other (known.resolve_left (Ne.symm same))

theorem weaken (alike : Alike registry shared runs table) {fewer : String → Prop}
    (within : ∀ job, fewer job → shared job) : Alike registry fewer runs table :=
  ⟨alike.numbered, fun job known => alike.shared job (within job known)⟩

end LastRuns.Alike

namespace Collector

-- All jobs once at each of some times.
def passes (c : Collector σ) (history : History η) :
    List Instant → World σ → η → List (List Outcome) × World σ × η
  | [], w, past => ([], w, past)
  | now :: rest, w, past =>
    let (outcomes, after, present) := c.runAll history now w past
    let (others, last, final) := c.passes history rest after present
    (outcomes :: others, last, final)

-- The same answer and the same world, from and to histories that stand for alike tables.
structure Twin (c : Collector σ) (stands : η → LastRuns → Prop) (standsToo : θ → LastRuns → Prop)
    (shared : String → Prop) (done : α × World σ × η) (doneToo : α × World σ × θ) : Prop where
  answer : done.1 = doneToo.1
  world : done.2.1 = doneToo.2.1
  tables : ∃ kept keptToo, stands done.2.2 kept ∧ standsToo doneToo.2.2 keptToo ∧
    LastRuns.Alike c.jobs shared kept keptToo

variable {c : Collector σ} {history : History η} {another : History θ} {stands : η → LastRuns → Prop}
  {standsToo : θ → LastRuns → Prop} {past : η} {pastToo : θ} {runs table : LastRuns} {shared : String → Prop}

theorem runOne_twin (mirrors : history.Mirrors stands) (mirrorsToo : another.Mirrors standsToo)
    (same : stands past runs) (sameToo : standsToo pastToo table)
    (alike : LastRuns.Alike c.jobs shared runs table) (present : job ∈ c.jobs.keys) (now : Instant) (w : World σ) :
    ∃ outcome after left leftToo kept keptToo,
      c.runOne history now job w past = (.ok outcome, after, left) ∧
      c.runOne another now job w pastToo = (.ok outcome, after, leftToo) ∧
      stands left kept ∧ standsToo leftToo keptToo ∧
      LastRuns.Alike c.jobs (fun other => other = job ∨ shared other) kept keptToo := by
  obtain ⟨j, found⟩ := Keyed.get?_of_mem_keys present
  obtain ⟨left, still, ran⟩ := runOne_registered mirrors same found now w
  obtain ⟨leftToo, stillToo, ranToo⟩ := runOne_registered mirrorsToo sameToo found now w
  rw [← Run.following_of_priorId (alike.numbered job present)] at stillToo ranToo
  exact ⟨_, _, left, leftToo, _, _, ran, ranToo, still, stillToo, alike.insert job _⟩

theorem runEach_twin (mirrors : history.Mirrors stands) (mirrorsToo : another.Mirrors standsToo)
    (same : stands past runs) (sameToo : standsToo pastToo table)
    (alike : LastRuns.Alike c.jobs shared runs table) {names : List String} (known : ∀ job ∈ names, job ∈ c.jobs.keys)
    (now : Instant) (w : World σ) :
    c.Twin stands standsToo (fun job => job ∈ names ∨ shared job) (c.runEach history now names w past)
      (c.runEach another now names w pastToo) := by
  induction names generalizing past pastToo runs table shared w with
  | nil => exact ⟨rfl, rfl, runs, table, same, sameToo, alike.weaken fun _ => (Or.resolve_left · List.not_mem_nil)⟩
  | cons job rest ih =>
    obtain ⟨outcome, after, left, leftToo, kept, keptToo, ran, ranToo, still, stillToo, alikeNow⟩ :=
      runOne_twin mirrors mirrorsToo same sameToo alike (known job List.mem_cons_self) now w
    obtain ⟨answer, world, last, lastToo, atLast, atLastToo, alikeThen⟩ :=
      ih still stillToo alikeNow (fun other later => known other (List.mem_cons_of_mem job later)) after
    simp only [runEach, ran, ranToo]
    refine ⟨congrArg (List.cons outcome) answer, world, last, lastToo, atLast, atLastToo, alikeThen.weaken ?_⟩
    intro other either
    rcases either with listed | before
    · rcases List.mem_cons.mp listed with here | later
      · exact .inr (.inl here)
      · exact .inl later
    · exact .inr (.inr before)

-- From the first pass on, every job of the registry is remembered alike.
theorem passes_twin (mirrors : history.Mirrors stands) (mirrorsToo : another.Mirrors standsToo)
    (same : stands past runs) (sameToo : standsToo pastToo table)
    (alike : LastRuns.Alike c.jobs shared runs table) (nows : List Instant) (w : World σ) :
    c.Twin stands standsToo (fun job => nows ≠ [] ∧ job ∈ c.jobs.keys ∨ shared job) (c.passes history nows w past)
      (c.passes another nows w pastToo) := by
  induction nows generalizing past pastToo runs table shared w with
  | nil => exact ⟨rfl, rfl, runs, table, same, sameToo, alike.weaken fun _ => (Or.resolve_left · (·.1 rfl))⟩
  | cons now rest ih =>
    obtain ⟨answer, world, kept, keptToo, still, stillToo, alikeNow⟩ :=
      runEach_twin mirrors mirrorsToo same sameToo alike (fun _ present => present) now w
    obtain ⟨answers, last, final, finalToo, atLast, atLastToo, alikeThen⟩ :=
      ih still stillToo alikeNow (c.runAll history now w past).2.1
    have afterward : (c.runAll another now w pastToo).2.1 = (c.runAll history now w past).2.1 := world.symm
    simp only [passes, afterward]
    refine ⟨?_, last, final, finalToo, atLast, atLastToo, alikeThen.weaken ?_⟩
    · exact congr (congrArg List.cons answer) answers
    · rintro job (⟨-, present⟩ | before)
      · exact .inr (.inl present)
      · exact .inr (.inr before)

-- A run leaves its number to the next one and nothing else. The source of a job is handed the same run after any two
-- priors of one number; and passes over histories that agree on the numbers of the jobs come to the same outcomes in the
-- same world, with the same stores and events, and leave the same parameters of every job.
theorem passes_inherit (c : Collector σ) :
    (∀ job prior other defaults supplied, Run.priorId prior = Run.priorId other →
      ∃ run : Run, run.job = job ∧ run.id = (Run.priorId prior).next ∧ run.Draws defaults supplied ∧
        ∀ (collector : Collector σ) (source : Source), collector.jobs.get? job = some ⟨source, defaults⟩ →
          ∀ (now : Instant) (w : World σ),
            let launched := collector.launch source now run w
            collector.runJob now job prior supplied w = (.ok launched.1, launched.2) ∧
              collector.runJob now job other supplied w = (.ok launched.1, launched.2)) ∧
    ∀ {history : History η} {another : History θ} {past : η} {pastToo : θ} {runs table : LastRuns},
      History.Opens history past runs → History.Opens another pastToo table →
      (∀ job ∈ c.jobs.keys, Run.priorId (runs.get? job) = Run.priorId (table.get? job)) →
      ∀ (nows : List Instant) (w : World σ),
        let done := c.passes history nows w past
        let doneToo := c.passes another nows w pastToo
        done.1 = doneToo.1 ∧ done.2.1 = doneToo.2.1 ∧
          (nows ≠ [] → ∀ job ∈ c.jobs.keys, ∃ params, history.last job done.2.2 = .ok (some params) ∧
            another.last job doneToo.2.2 = .ok (some params)) := by
  constructor
  · intro job prior other defaults supplied same
    have draws := Run.following_draws job prior defaults supplied
    refine ⟨_, rfl, rfl, draws, fun collector source found now w => ⟨?_, ?_⟩⟩
    · exact runJob_registered found now prior supplied w
    · rw [Run.following_of_priorId same]
      exact runJob_registered found now other supplied w
  · intro history another past pastToo runs table opens opensToo numbered nows w done doneToo
    obtain ⟨stands, mirrors, same⟩ := opens.mirrored
    obtain ⟨standsToo, mirrorsToo, sameToo⟩ := opensToo.mirrored
    have alike : LastRuns.Alike c.jobs (fun _ => False) runs table := ⟨numbered, fun _ never => never.elim⟩
    obtain ⟨answer, world, kept, keptToo, still, stillToo, alikeThen⟩ :=
      passes_twin mirrors mirrorsToo same sameToo alike nows w
    refine ⟨answer, world, fun run job present => ?_⟩
    obtain ⟨params, found, foundToo⟩ := alikeThen.shared job (.inl ⟨run, present⟩)
    exact ⟨params, by rw [mirrors.last still, found], by rw [mirrorsToo.last stillToo, foundToo]⟩

-- A source that shows the cursor it is handed. One history holds a cursor and an id that is no number, the other history
-- is a file that does not exist.
theorem passes_inherit_cursor :
    let echo : Source := ⟨.atcoder, .scrape, fun run network =>
      (⟨.ok ⟨[.contest ⟨run.job, run.cursor.getD "-", "", none, none, none⟩], 0⟩, []⟩, network)⟩
    let job : Job := ⟨echo, Keyed.empty.insert "cursor" (.text "first")⟩
    let c : Collector Shelf := ⟨Keyed.empty.insert "a" job, Shelf.sink, [.logging], .draft⟩
    let prior : Parameters := Keyed.ofList [("run.id", .text "seven"), ("cursor", .text "last")]
    let runs : LastRuns := Keyed.empty.insert "a" prior
    let w := World.start Http.Network.offline Shelf.empty
    let nows : List Instant := [.epoch, .epoch]
    History.readFile "runs.json" Disk.empty = .ok Keyed.empty ∧ Run.priorId (some prior) = Run.priorId none ∧
      c.jobs.get? "a" = some job ∧
      c.runJob .epoch "a" (some prior) Keyed.empty w = c.runJob .epoch "a" none Keyed.empty w ∧
      (c.passes .memory nows w runs).1 = (c.passes (.file "runs.json") nows w Disk.empty).1 ∧
      (c.passes .memory nows w runs).2.1.store.stored.map Item.title = ["first"] ∧
      (c.passes (.file "runs.json") nows w Disk.empty).2.1.store.stored.map Item.title = ["first"] ∧
      ∃ params, Parameters.getLong? params runIdKey = Long.ofInt? 2 ∧ Parameters.getText? params "cursor" = some "first" ∧
        History.memory.last "a" (c.passes .memory nows w runs).2.2 = .ok (some params) ∧
        (History.file "runs.json").last "a" (c.passes (.file "runs.json") nows w Disk.empty).2.2 = .ok (some params) := by
  intro echo job c prior runs w nows
  have read : History.readFile "runs.json" Disk.empty = .ok Keyed.empty := rfl
  have same : Run.priorId (some prior) = Run.priorId none := by decide
  have numbered : ∀ job ∈ c.jobs.keys,
      Run.priorId (runs.get? job) = Run.priorId ((Keyed.empty : LastRuns).get? job) := by
    intro job present
    cases List.mem_singleton.mp present
    exact same
  have shown : (c.passes .memory nows w runs).2.1.store.stored.map Item.title = ["first"] := by decide +kernel
  have kept : ((c.passes .memory nows w runs).2.2.get? "a").map
      (fun params => (Parameters.getLong? params runIdKey, Parameters.getText? params "cursor")) =
        some (Long.ofInt? 2, some "first") := by decide +kernel
  obtain ⟨handing, passing⟩ := passes_inherit (η := LastRuns) (θ := Disk) c
  have registered : c.jobs.get? "a" = some job := rfl
  obtain ⟨run, _, _, _, handed⟩ := handing "a" (some prior) none job.defaults Keyed.empty same
  obtain ⟨ran, ranToo⟩ := handed c echo registered .epoch w
  obtain ⟨answer, world, recorded⟩ := passing (.memory runs) (.file (by decide) read) numbered nows w
  obtain ⟨params, found, foundToo⟩ := recorded (List.cons_ne_nil _ _) "a" List.mem_cons_self
  have present : (c.passes .memory nows w runs).2.2.get? "a" = some params := Except.ok.inj found
  rw [present] at kept
  obtain ⟨number, cursor⟩ := Prod.mk.inj (Option.some.inj kept)
  exact ⟨read, same, registered, ran.trans ranToo.symm, answer, shown, by rw [← shown, world], params, number, cursor,
    found, foundToo⟩

end Collector

end Harvester
