import Mathlib.Algebra.Ring.Nat
import Harvester.Proofs.Collector.Contract
namespace Harvester
namespace Shelf

-- What was done to a shelf, with what came of it.
inductive Deed
  | preloaded (key : ItemKey)
  | created (item : Item) (answer : Except Refusal Unit)
  | wrote (tally : Tally)
  | ran (answer : Except UnknownJob Outcome)

-- How many items were taken in, by the answers alone.
def Deed.taken : Deed → Nat
  | .preloaded _ => 0
  | .created item answer => (Delivery.tallyOf item answer).accepted
  | .wrote tally => tally.accepted
  | .ran (.ok outcome) => (outcome.report?.map fun report => report.written.accepted).getD 0
  | .ran (.error _) => 0

-- One use of a shelf. The network, the journal and the collector may be others every time.
inductive Step : Shelf → Deed → Shelf → Prop
  | preload (shelf : Shelf) (key : ItemKey) : Step shelf (.preloaded key) (shelf.preload key)
  | create (shelf : Shelf) (item : Item) : Step shelf (.created item (create item shelf).1) (create item shelf).2
  | write (d : Delivery) (items : List Item) (w : World Shelf) :
      Step w.store (.wrote (d.write sink items w).1) (d.write sink items w).2.store
  | run (c : Collector Shelf) (onShelf : c.sink = sink) (now : Instant) (job : String) (prior : Option Parameters)
      (supplied : Parameters) (w : World Shelf) :
      Step w.store (.ran (c.runJob now job prior supplied w).1) (c.runJob now job prior supplied w).2.store

inductive Steps : Shelf → List Deed → Shelf → Prop
  | none (shelf : Shelf) : Steps shelf [] shelf
  | more (step : Step before deed between) (rest : Steps between deeds after) : Steps before (deed :: deeds) after

-- The shelf after some more items: they stand behind the old ones, each under a key that was new to the shelf and is
-- seen from then on.
structure Grows (before : Shelf) (fresh : List Item) (after : Shelf) : Prop where
  failing : after.failing = before.failing
  stored : after.stored = before.stored ++ fresh
  seen : ∀ key ∈ before.seen, key ∈ after.seen
  distinct : (fresh.map Item.key).Nodup
  unseen : ∀ item ∈ fresh, item.key ∉ before.seen
  remembered : ∀ item ∈ fresh, item.key ∈ after.seen
  sound : ∀ item ∈ fresh, item.externalId ∉ before.failing

-- Keys may come to be seen without any item.
theorem Grows.unstocked (failing : after.failing = before.failing) (stored : after.stored = before.stored)
    (seen : ∀ key ∈ before.seen, key ∈ after.seen) : Grows before [] after := by
  refine ⟨failing, ?_, seen, List.nodup_nil, ?_, ?_, ?_⟩
  · rw [stored, List.append_nil]
  all_goals
    intro item present
    exact absurd present List.not_mem_nil

theorem Grows.refl (shelf : Shelf) : Grows shelf [] shelf := .unstocked rfl rfl fun _ present => present

theorem Grows.trans (first : Grows before early between) (second : Grows between late after) :
    Grows before (early ++ late) after := by
  refine ⟨second.failing.trans first.failing, ?_, fun key present => second.seen key (first.seen key present),
    ?_, ?_, ?_, ?_⟩
  · rw [second.stored, first.stored, List.append_assoc]
  · rw [List.map_append]
    refine List.nodup_append.mpr ⟨first.distinct, second.distinct, ?_⟩
    intro key inEarly other inLate same
    subst same
    obtain ⟨item, present, rfl⟩ := List.mem_map.mp inEarly
    obtain ⟨twin, later, same⟩ := List.mem_map.mp inLate
    exact second.unseen twin later (same ▸ first.remembered item present)
  · intro item present
    rcases List.mem_append.mp present with inEarly | inLate
    · exact first.unseen item inEarly
    · exact fun old => second.unseen item inLate (first.seen item.key old)
  · intro item present
    rcases List.mem_append.mp present with inEarly | inLate
    · exact second.seen item.key (first.remembered item inEarly)
    · exact second.remembered item inLate
  · intro item present
    rcases List.mem_append.mp present with inEarly | inLate
    · exact first.sound item inEarly
    · exact first.failing ▸ second.sound item inLate

theorem preload_grows (shelf : Shelf) (key : ItemKey) : Grows shelf [] (shelf.preload key) := by
  rw [preload]
  split
  · exact Grows.refl shelf
  · exact .unstocked rfl rfl fun _ old => List.mem_cons_of_mem _ old

theorem preload_seen (shelf : Shelf) (key : ItemKey) : key ∈ (shelf.preload key).seen := by
  rw [preload]
  split
  · assumption
  · exact List.mem_cons_self

theorem create_refused {item : Item} {shelf : Shelf} (refused : (create item shelf).1 = .error refusal) :
    (create item shelf).2 = shelf := by
  unfold create at refused ⊢
  split
  · rfl
  · split
    · rfl
    · simp_all

theorem create_taken {item : Item} {shelf : Shelf} (taken : (create item shelf).1 = .ok ()) :
    Grows shelf [item] (create item shelf).2 := by
  unfold create at taken ⊢
  split
  · simp_all
  · split
    · simp_all
    · rename_i sound unseen
      refine ⟨rfl, rfl, fun _ old => List.mem_cons_of_mem _ old, ?_, ?_, ?_, ?_⟩
      · simp
      · simpa using unseen
      · simp
      · simpa using sound

theorem create_grows (item : Item) (shelf : Shelf) :
    ∃ fresh, Grows shelf fresh (create item shelf).2 ∧
      fresh.length = (Delivery.tallyOf item (create item shelf).1).accepted := by
  rcases answer : (create item shelf).1 with refusal | ⟨⟨⟩⟩
  · rw [create_refused answer]
    refine ⟨[], Grows.refl shelf, ?_⟩
    cases refusal <;> rfl
  · exact ⟨[item], create_taken answer, rfl⟩

theorem offerAll_grows (d : Delivery) (items : List Item) (w : World Shelf) :
    ∃ fresh, Grows w.store fresh (Delivery.offerAll sink d items w).2.store ∧
      fresh.length = (Delivery.offerAll sink d items w).1.accepted := by
  induction items generalizing w with
  | nil => exact ⟨[], Grows.refl w.store, rfl⟩
  | cons item rest ih =>
    obtain ⟨early, first, counted⟩ := create_grows (d.stamp item) w.store
    obtain ⟨late, others, countedLate⟩ := ih (Delivery.offer sink d item w).2
    refine ⟨early ++ late, first.trans others, ?_⟩
    rw [List.length_append, counted, countedLate]
    rfl

theorem write_grows (d : Delivery) (items : List Item) (w : World Shelf) :
    ∃ fresh, Grows w.store fresh (d.write sink items w).2.store ∧ fresh.length = (d.write sink items w).1.accepted :=
  offerAll_grows d items w

theorem delivered_grows {c : Collector Shelf} (onShelf : c.sink = sink) (source : Source) (now : Instant) (run : Run)
    (batch : Batch) (w : World Shelf) :
    ∃ fresh, Grows w.store fresh (c.delivered source now run batch w).2.store ∧
      fresh.length = (c.delivered source now run batch w).1.accepted := by
  rw [Collector.delivered, onShelf]
  exact write_grows _ _ (w.note _)

theorem launch_grows {c : Collector Shelf} (onShelf : c.sink = sink) (source : Source) (now : Instant) (run : Run)
    (w : World Shelf) :
    ∃ fresh, Grows w.store fresh (c.launch source now run w).2.store ∧
      fresh.length = (Deed.ran (.ok (c.launch source now run w).1)).taken := by
  have asked : (c.fetchFor source run w).2.store = w.store := c.fetchFor_store source run w
  cases result : (c.fetchFor source run w).1 with
  | error e =>
    rw [Collector.launch_failed result, Collector.abandon_store, asked]
    exact ⟨[], Grows.refl w.store, rfl⟩
  | ok batch =>
    have delivered := delivered_grows onShelf source now run batch (c.fetchFor source run w).2
    rw [asked] at delivered
    rw [Collector.launch_fetched result, Collector.conclude_store, Collector.conclude_eq]
    exact delivered

theorem runJob_grows {c : Collector Shelf} (onShelf : c.sink = sink) (now : Instant) (job : String)
    (prior : Option Parameters) (supplied : Parameters) (w : World Shelf) :
    ∃ fresh, Grows w.store fresh (c.runJob now job prior supplied w).2.store ∧
      fresh.length = (Deed.ran (c.runJob now job prior supplied w).1).taken := by
  cases found : c.jobs.get? job with
  | none =>
    rw [Collector.runJob_unknown found]
    exact ⟨[], Grows.refl w.store, rfl⟩
  | some j =>
    rw [Collector.runJob_registered found]
    exact launch_grows onShelf j.source now _ w

theorem step_grows (step : Step before deed after) : ∃ fresh, Grows before fresh after ∧ fresh.length = deed.taken := by
  cases step with
  | preload _ key => exact ⟨[], preload_grows before key, rfl⟩
  | create _ item => exact create_grows item before
  | write d items w => exact write_grows d items w
  | run c onShelf now job prior supplied w => exact runJob_grows onShelf now job prior supplied w

theorem steps_grow (steps : Steps before deeds after) :
    ∃ fresh, Grows before fresh after ∧ fresh.length = (deeds.map Deed.taken).sum := by
  induction steps with
  | none shelf => exact ⟨[], Grows.refl shelf, rfl⟩
  | more step _ ih =>
    obtain ⟨early, first, counted⟩ := step_grows step
    obtain ⟨late, others, countedLate⟩ := ih
    refine ⟨early ++ late, first.trans others, ?_⟩
    rw [List.length_append, counted, countedLate, List.map_cons, List.sum_cons]

-- A key stays seen once it was preloaded.
theorem steps_preloaded (steps : Steps before deeds after) (preloaded : Deed.preloaded key ∈ deeds) :
    key ∈ after.seen := by
  induction steps with
  | none => cases preloaded
  | more step rest ih =>
    rcases List.mem_cons.mp preloaded with here | later
    · subst here
      obtain ⟨fresh, others, _⟩ := steps_grow rest
      cases step with
      | preload => exact others.seen _ (preload_seen _ _)
    · exact ih later

-- A shelf that began empty, at two moments of any history.
theorem steps_deduplicate (failing : List String) (early : Steps ⟨failing, [], []⟩ before middle)
    (late : Steps middle later last) :
    (last.stored.map Item.key).Nodup ∧ (∀ item ∈ last.stored, item.externalId ∉ failing) ∧
      last.stored.length = ((before ++ later).map Deed.taken).sum ∧
      (∃ fresh, last.stored = middle.stored ++ fresh ∧ ∀ item ∈ fresh, Deed.preloaded item.key ∉ before) ∧
      ∀ item refusal, (create item last).1 = .error refusal → (create item last).2 = last := by
  obtain ⟨old, first, counted⟩ := steps_grow early
  obtain ⟨fresh, others, countedLate⟩ := steps_grow late
  have whole : Grows ⟨failing, [], []⟩ (old ++ fresh) last := first.trans others
  have stored : last.stored = old ++ fresh := whole.stored
  refine ⟨?_, ?_, ?_, ⟨fresh, others.stored, ?_⟩, fun item refusal => create_refused⟩
  · rw [stored]
    exact whole.distinct
  · rw [stored]
    exact whole.sound
  · rw [stored, List.length_append, counted, countedLate, List.map_append, List.sum_append]
  · intro item present preloaded
    exact others.unseen item present (steps_preloaded early preloaded)

-- A shelf that knows one key from before and refuses one id gets an item directly, four in a batch and one in a run.
theorem steps_deduplicate_mixed :
    let item (id : String) : Item := ⟨.atcoder, .contest, "A", none, none, .epoch, .scrape, none, id, Keyed.empty⟩
    let source : Source := .constant .atcoder .scrape (.ok ⟨[.contest ⟨"new", "A", "", none, none, none⟩], 0⟩)
    let c : Collector Shelf := ⟨Keyed.empty.insert "up" ⟨source, Keyed.empty⟩, sink, [], .draft⟩
    let start : Shelf := ⟨["bad"], [], []⟩
    let middle := World.start Http.Network.offline (create (item "a") (start.preload (item "old").key)).2
    let written := Delivery.write sink ⟨.scrape, "up", .draft⟩ [item "a", item "bad", item "old", item "b"] middle
    let ran := c.runJob .epoch "up" none Keyed.empty written.2
    Steps start [.preloaded (item "old").key, .created (item "a") (.ok ())] middle.store ∧
      Steps middle.store [.wrote written.1, .ran ran.1] ran.2.store ∧ written.1 = ⟨1, 2, 1, ["bad"]⟩ ∧
      ran.2.store.stored.map Item.externalId = ["a", "b", "new"] ∧ (ran.2.store.stored.map Item.key).Nodup := by
  intro item source c start middle written ran
  have early : Steps start [.preloaded (item "old").key, .created (item "a") (.ok ())] middle.store :=
    .more (.preload start _) (.more (.create _ (item "a")) (.none _))
  have late : Steps middle.store [.wrote written.1, .ran ran.1] ran.2.store :=
    .more (.write ⟨.scrape, "up", .draft⟩ [item "a", item "bad", item "old", item "b"] middle)
      (.more (.run c rfl .epoch "up" none Keyed.empty written.2) (.none ran.2.store))
  exact ⟨early, late, by decide +kernel, by decide +kernel, (steps_deduplicate ["bad"] early late).1⟩

end Shelf
end Harvester
