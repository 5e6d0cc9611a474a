import Harvester.Proofs.Collector.Batch
namespace Harvester.Collector

variable {c : Collector Shelf} {source : Source} {now : Instant} {run : Run} {batch : Batch} {w : World Shelf}

-- A completed run leaves the shelf as it was when the report was made.
theorem launch_completed (brought : (c.fetchFor source run w).1 = .ok batch) (now : Instant) :
    (c.launch source now run w).1.report? =
        some (c.reportFor source now run batch (c.fetchFor source run w).2) ∧
      (c.launch source now run w).2.store = (c.delivered source now run batch (c.fetchFor source run w).2).2.store := by
  rw [launch_fetched brought]
  refine ⟨?_, conclude_store _ _ _ _ _ _ _⟩
  rw [conclude_eq]
  rfl

-- A job whose source brings the same raw items once more, at whatever time and with whatever else happened to the shelf
-- since. Nothing is taken a second time: what was accepted is skipped, what was dropped or failed is so again.
theorem runJob_again (onShelf : c.sink = Shelf.sink) (found : c.jobs.get? job = some j) (now later : Instant)
    {prior priorAgain : Option Parameters} {supplied suppliedAgain : Parameters} {w v : World Shelf}
    {batch again : Batch}
    (brought : (c.fetchFor j.source (.following job prior (j.defaults.overlay supplied)) w).1 = .ok batch)
    (between : Shelf.Steps (c.runJob now job prior supplied w).2.store deeds v.store)
    (broughtAgain : (c.fetchFor j.source (.following job priorAgain (j.defaults.overlay suppliedAgain)) v).1 = .ok again)
    (same : again.items = batch.items) :
    let ran := c.runJob now job prior supplied w
    let ranAgain := c.runJob later job priorAgain suppliedAgain v
    ∃ first second report reportAgain,
      ran.1 = .ok first ∧ first.report? = some report ∧ ranAgain.1 = .ok second ∧ second.report? = some reportAgain ∧
      reportAgain.dropped = report.dropped ∧ reportAgain.written.accepted = 0 ∧
      reportAgain.written.skipped = report.written.accepted + report.written.skipped ∧
      reportAgain.written.failed = report.written.failed ∧ reportAgain.written.failedIds = report.written.failedIds ∧
      ranAgain.2.store = v.store := by
  intro ran ranAgain
  let run := Run.following job prior (j.defaults.overlay supplied)
  let rerun := Run.following job priorAgain (j.defaults.overlay suppliedAgain)
  let begun := (c.fetchFor j.source run w).2
  let begunAgain := (c.fetchFor j.source rerun v).2
  have launched : ran = (.ok (c.launch j.source now run w).1, (c.launch j.source now run w).2) :=
    runJob_registered found now prior supplied w
  have relaunched : ranAgain = (.ok (c.launch j.source later rerun v).1, (c.launch j.source later rerun v).2) :=
    runJob_registered found later priorAgain suppliedAgain v
  obtain ⟨reported, left⟩ := launch_completed brought now
  obtain ⟨reportedAgain, leftAgain⟩ := launch_completed broughtAgain later
  have restart : begunAgain.store = v.store := c.fetchFor_store j.source rerun v
  -- From the first run to the second the shelf only grows.
  obtain ⟨taken, early, _⟩ := Shelf.delivered_grows onShelf j.source now run batch begun
  obtain ⟨fresh, late, _⟩ := Shelf.steps_grow between
  change Shelf.Grows ran.2.store fresh v.store at late
  rw [launched, left] at late
  have failing : begun.store.failing = begunAgain.store.failing := by
    rw [restart, late.failing, early.failing]
  -- So every item of the second batch is settled before it is offered.
  have settled : ∀ item ∈ normalized j.source.provider later again.items, begunAgain.store.Settled item.key := by
    intro item present
    have key : item.key ∈ (normalized j.source.provider now batch.items).map Item.key := by
      rw [normalized_keys _ now later, ← same]
      exact List.mem_map_of_mem present
    obtain ⟨twin, member, keys⟩ := List.mem_map.mp key
    rw [restart, ← keys]
    exact late.settled (delivered_settles onShelf twin member)
  obtain ⟨kept, none_⟩ := delivered_settled onShelf rerun settled
  have agrees : (c.delivered j.source now run batch begun).1.Agrees
      (c.delivered j.source later rerun again begunAgain).1 :=
    delivered_agrees onShelf onShelf rfl same.symm failing
  have handled := agrees.handled
  rw [none_, Nat.zero_add] at handled
  have dropped : rejected j.source.provider later again.items = rejected j.source.provider now batch.items := by
    rw [same]
    exact rejected_eq _ _ _ _
  refine ⟨_, _, _, _, congrArg Prod.fst launched, reported, congrArg Prod.fst relaunched, reportedAgain, dropped, none_,
    handled.symm, agrees.failed.symm, agrees.failedIds.symm, ?_⟩
  rw [relaunched, leftAgain, kept, restart]

-- One item comes twice, one is there already, one fails and one has no id; a key is preloaded between the two runs.
theorem runJob_again_mixed :
    let contest (slug : String) : RawItem := .contest ⟨slug, "A", "", none, none, none⟩
    let raws := [contest "a", contest "a", contest "old", contest "bad", contest " "]
    let up : Job := ⟨.constant .atcoder .scrape (.ok ⟨raws, 0⟩), Keyed.empty⟩
    let c : Collector Shelf := ⟨Keyed.empty.insert "up" up, Shelf.sink, [], .draft⟩
    let w := World.start Http.Network.offline ⟨["bad"], [⟨.atcoder, "old"⟩], []⟩
    let v := World.start Http.Network.offline
      ((c.runJob .epoch "up" none Keyed.empty w).2.store.preload ⟨.atcoder, "b"⟩)
    c.jobs.get? "up" = some up ∧
      Shelf.Steps (c.runJob .epoch "up" none Keyed.empty w).2.store [.preloaded ⟨.atcoder, "b"⟩] v.store ∧
      ∃ first second report reportAgain,
        (c.runJob .epoch "up" none Keyed.empty w).1 = .ok first ∧ first.report? = some report ∧
        (c.runJob ⟨60, 0⟩ "up" none Keyed.empty v).1 = .ok second ∧ second.report? = some reportAgain ∧
        report.dropped = 1 ∧ report.written = ⟨1, 2, 1, ["bad"]⟩ ∧
        reportAgain.dropped = 1 ∧ reportAgain.written = ⟨0, 3, 1, ["bad"]⟩ ∧
        (c.runJob ⟨60, 0⟩ "up" none Keyed.empty v).2.store = v.store := by
  intro contest raws up c w v
  have found : c.jobs.get? "up" = some up := rfl
  have between : Shelf.Steps (c.runJob .epoch "up" none Keyed.empty w).2.store [.preloaded ⟨.atcoder, "b"⟩] v.store :=
    .more (.preload _ _) (.none _)
  have brings (w : World Shelf) :
      (c.fetchFor up.source (.following "up" none (up.defaults.overlay Keyed.empty)) w).1 = .ok ⟨raws, 0⟩ := rfl
  obtain ⟨first, second, report, reportAgain, answered, reported, answeredAgain, reportedAgain, dropped, accepted, skipped,
    failed, failedIds, kept⟩ := runJob_again rfl found .epoch ⟨60, 0⟩ (brings w) between (brings v) rfl
  have evaluated : ((c.runJob .epoch "up" none Keyed.empty w).1.toOption.bind Outcome.report?).map
      (fun r => (r.dropped, r.written)) = some (1, ⟨1, 2, 1, ["bad"]⟩) := by decide +kernel
  rw [answered] at evaluated
  simp only [Except.toOption, Option.bind_some, reported, Option.map_some, Option.some.injEq, Prod.mk.injEq] at evaluated
  obtain ⟨rejected, written⟩ := evaluated
  refine ⟨found, between, first, second, report, reportAgain, answered, reported, answeredAgain, reportedAgain, rejected,
    written, dropped.trans rejected, ?_, kept⟩
  calc reportAgain.written = ⟨reportAgain.written.accepted, reportAgain.written.skipped, reportAgain.written.failed,
        reportAgain.written.failedIds⟩ := rfl
    _ = ⟨0, 3, 1, ["bad"]⟩ := by simp only [accepted, skipped, failed, failedIds, written]

end Harvester.Collector
