import Mathlib.Data.List.Dedup
import Harvester.Proofs.Shelf.Batch
namespace Harvester.Shelf

variable {item : Item} {before between after : Shelf} {items : List Item} {d : Delivery} {w : World Shelf}

-- The keys of a batch that a shelf neither refuses nor has seen, as often as they come.
def freshKeys (shelf : Shelf) (items : List Item) : List ItemKey :=
  ((items.filter fun item => item.externalId ∉ shelf.failing).map Item.key).filter fun key => key ∉ shelf.seen

theorem mem_freshKeys {key : ItemKey} : key ∈ before.freshKeys items ↔
    key.externalId ∉ before.failing ∧ key ∉ before.seen ∧ ∃ item ∈ items, item.key = key := by
  simp only [freshKeys, List.mem_filter, List.mem_map, decide_eq_true_eq]
  constructor
  · rintro ⟨⟨item, ⟨member, sound⟩, rfl⟩, unseen⟩
    exact ⟨sound, unseen, item, member, rfl⟩
  · rintro ⟨sound, unseen, item, member, rfl⟩
    exact ⟨⟨item, ⟨member, sound⟩, rfl⟩, unseen⟩

-- A shelf that was offered some items and took `fresh` of them: it has come to see no keys but theirs, every key that was
-- offered is settled, and what it took is the first it was offered under the key.
structure Picks (before : Shelf) (items fresh : List Item) (after : Shelf) : Prop extends Grows before fresh after where
  seenOnly : ∀ key ∈ after.seen, key ∈ before.seen ∨ key ∈ fresh.map Item.key
  settled : ∀ item ∈ items, after.Settled item.key
  first : ∀ item ∈ fresh, items.find? (fun other => other.key == item.key) = some item

theorem Picks.nothing (shelf : Shelf) : Picks shelf [] [] shelf := by
  refine ⟨Grows.refl shelf, fun key present => .inl present, ?_, ?_⟩
  all_goals
    intro item present
    exact absurd present List.not_mem_nil

theorem Picks.append (first : Picks before items early between) (second : Picks between more late after) :
    Picks before (items ++ more) (early ++ late) after := by
  refine ⟨first.toGrows.trans second.toGrows, ?_, ?_, ?_⟩
  · intro key present
    rw [List.map_append, List.mem_append, ← or_assoc]
    rcases second.seenOnly key present with old | new
    · exact .inl (first.seenOnly key old)
    · exact .inr new
  · intro item present
    rcases List.mem_append.mp present with inFirst | inSecond
    · exact second.toGrows.settled (first.settled item inFirst)
    · exact second.settled item inSecond
  · intro item present
    rw [List.find?_append]
    rcases List.mem_append.mp present with inEarly | inLate
    · rw [first.first item inEarly, Option.some_or]
    · -- The first batch has settled its keys, so none of them is the key of an item that is taken later.
      have apart : items.find? (fun other => other.key == item.key) = none := by
        rw [List.find?_eq_none]
        intro other member same
        have settled := first.settled other member
        rw [beq_iff_eq.mp same] at settled
        rcases settled with failing | seen
        · exact second.sound item inLate failing
        · exact second.unseen item inLate seen
      rw [apart, Option.none_or, second.first item inLate]

theorem create_picks (item : Item) (shelf : Shelf) :
    ∃ fresh, Picks shelf [item] fresh (create item shelf).2 ∧
      fresh.length = (Delivery.tallyOf item (create item shelf).1).accepted := by
  have settles : ∀ offered ∈ [item], (create item shelf).2.Settled offered.key := by
    intro offered present
    rw [List.mem_singleton.mp present]
    exact create_settles item shelf
  rcases answer : (create item shelf).1 with refusal | ⟨⟨⟩⟩
  · rw [create_refused answer] at settles ⊢
    refine ⟨[], ⟨Grows.refl shelf, fun key present => .inl present, settles, ?_⟩, ?_⟩
    · intro taken present
      exact absurd present List.not_mem_nil
    · cases refusal <;> rfl
  · refine ⟨[item], ⟨create_taken answer, ?_, settles, ?_⟩, rfl⟩
    · intro key present
      unfold create at answer present
      split at present
      · simp_all
      · split at present
        · simp_all
        · rcases List.mem_cons.mp present with new | old
          · exact .inr (List.mem_singleton.mpr new)
          · exact .inl old
    · intro taken present
      rw [List.mem_singleton.mp present]
      simp

theorem offerAll_picks (d : Delivery) (items : List Item) (w : World Shelf) :
    ∃ fresh, Picks w.store (items.map d.stamp) fresh (Delivery.offerAll sink d items w).2.store ∧
      fresh.length = (Delivery.offerAll sink d items w).1.accepted := by
  induction items generalizing w with
  | nil => exact ⟨[], Picks.nothing w.store, rfl⟩
  | cons item rest ih =>
    obtain ⟨early, first, counted⟩ := create_picks (d.stamp item) w.store
    obtain ⟨late, others, countedLate⟩ := ih (Delivery.offer sink d item w).2
    refine ⟨early ++ late, first.append others, ?_⟩
    rw [List.length_append, counted, countedLate]
    rfl

-- What is taken has exactly the fresh keys of the batch, each once.
theorem Picks.keys (picks : Picks before items fresh after) :
    (fresh.map Item.key).Perm (before.freshKeys items).dedup := by
  rw [List.perm_ext_iff_of_nodup picks.distinct (List.nodup_dedup _)]
  intro key
  rw [List.mem_dedup, mem_freshKeys]
  constructor
  · intro present
    obtain ⟨item, member, rfl⟩ := List.mem_map.mp present
    exact ⟨picks.sound item member, picks.unseen item member, item, List.mem_of_find?_eq_some (picks.first item member), rfl⟩
  · rintro ⟨sound, unseen, item, member, rfl⟩
    rcases picks.settled item member with failing | seen
    · rw [picks.failing] at failing
      exact absurd failing sound
    · exact (picks.seenOnly item.key seen).resolve_left unseen

theorem Picks.mem_seen (picks : Picks before items fresh after) (key : ItemKey) :
    key ∈ after.seen ↔ key ∈ before.seen ∨ key ∈ before.freshKeys items := by
  rw [← List.mem_dedup (l := before.freshKeys items), ← picks.keys.mem_iff]
  constructor
  · exact picks.seenOnly key
  · rintro (old | new)
    · exact picks.seen key old
    · obtain ⟨item, member, rfl⟩ := List.mem_map.mp new
      exact picks.remembered item member

-- The stamp of a delivery decides no key.
theorem freshKeys_stamped (shelf : Shelf) (d : Delivery) (items : List Item) :
    shelf.freshKeys (items.map d.stamp) = shelf.freshKeys items := by
  simp only [freshKeys, List.filter_map, List.map_map]
  rfl

theorem freshKeys_perm (shelf : Shelf) (same : items.Perm others) :
    (shelf.freshKeys items).Perm (shelf.freshKeys others) :=
  ((same.filter _).map _).filter _

theorem create_failedIds (item : Item) (shelf : Shelf) :
    (Delivery.tallyOf item (create item shelf).1).failedIds =
      if item.externalId ∈ shelf.failing then [item.externalId] else [] := by
  by_cases failing : item.externalId ∈ shelf.failing
  · rw [create_failing failing, if_pos failing]
    rfl
  · rw [if_neg failing]
    by_cases seen : item.key ∈ shelf.seen
    · rw [create_seen failing seen]
      rfl
    · rw [create_new failing seen]
      rfl

-- Which ids fail never changes, so it is known from the beginning.
theorem offerAll_failedIds (d : Delivery) (items : List Item) (w : World Shelf) :
    (Delivery.offerAll sink d items w).1.failedIds =
      (items.filter fun item => item.externalId ∈ w.store.failing).map Item.externalId := by
  induction items generalizing w with
  | nil => rfl
  | cons item rest ih =>
    have first := create_failedIds (d.stamp item) w.store
    have still : (Delivery.offer sink d item w).2.store.failing = w.store.failing :=
      create_keeps_failing (d.stamp item) w.store
    change (Delivery.offer sink d item w).1.failedIds = _ at first
    simp only [Delivery.offerAll, Tally.add, ih, still, first]
    by_cases failing : item.externalId ∈ w.store.failing
    · simp [Delivery.stamp, failing]
    · simp [Delivery.stamp, failing]

theorem write_failed (d : Delivery) (items : List Item) (w : World Shelf) :
    (d.write sink items w).1.failed = items.countP fun item => item.externalId ∈ w.store.failing := by
  have ids : (d.write sink items w).1.failedIds = _ := offerAll_failedIds d items w
  rw [← Delivery.write_failed, ids, List.length_map, List.countP_eq_length_filter]

theorem write_accepted (d : Delivery) (items : List Item) (w : World Shelf) :
    (d.write sink items w).1.accepted = (w.store.freshKeys items).dedup.length := by
  obtain ⟨fresh, picks, counted⟩ := offerAll_picks d items w
  have keys := picks.keys.length_eq
  rw [freshKeys_stamped, List.length_map, counted] at keys
  exact keys

theorem write_mem_seen (d : Delivery) (items : List Item) (w : World Shelf) (key : ItemKey) :
    key ∈ (d.write sink items w).2.store.seen ↔ key ∈ w.store.seen ∨ key ∈ w.store.freshKeys items := by
  obtain ⟨fresh, picks, _⟩ := offerAll_picks d items w
  rw [← freshKeys_stamped w.store d items]
  exact picks.mem_seen key

theorem write_taken (d : Delivery) (items : List Item) (w : World Shelf) :
    ∃ taken, (d.write sink items w).2.store.stored = w.store.stored ++ taken ∧
      (taken.map Item.key).Perm (w.store.freshKeys items).dedup ∧
      ∀ item ∈ taken, ∃ first, items.find? (fun other => other.key == item.key) = some first ∧ item = d.stamp first := by
  obtain ⟨taken, picks, _⟩ := offerAll_picks d items w
  have keys := picks.keys
  rw [freshKeys_stamped] at keys
  refine ⟨taken, picks.stored, keys, fun item present => ?_⟩
  have found := picks.first item present
  rw [List.find?_map] at found
  obtain ⟨first, hit, stamped⟩ := Option.map_eq_some_iff.mp found
  exact ⟨first, hit, stamped.symm⟩

-- The numbers of a batch by the keys in it. What fails is counted by the ids, what is accepted by the keys that are
-- fresh, and of each of these keys the first item is stored. So the order of the batch decides which items are stored
-- and nothing else.
theorem write_by_keys (d : Delivery) (items : List Item) (w : World Shelf) :
    let written := d.write sink items w
    written.1.failed = (items.countP fun item => item.externalId ∈ w.store.failing) ∧
      written.1.accepted = (w.store.freshKeys items).dedup.length ∧
      written.1.accepted + written.1.skipped + written.1.failed = items.length ∧
      (∃ taken, written.2.store.stored = w.store.stored ++ taken ∧
        (taken.map Item.key).Perm (w.store.freshKeys items).dedup ∧
        ∀ item ∈ taken, ∃ first, items.find? (fun other => other.key == item.key) = some first ∧ item = d.stamp first) ∧
      ∀ others, items.Perm others →
        let permuted := d.write sink others w
        permuted.1.accepted = written.1.accepted ∧ permuted.1.skipped = written.1.skipped ∧
          permuted.1.failed = written.1.failed ∧ permuted.1.failedIds.Perm written.1.failedIds ∧
          ∀ key, key ∈ permuted.2.store.seen ↔ key ∈ written.2.store.seen := by
  intro written
  have whole : written.1.accepted + written.1.skipped + written.1.failed = items.length :=
    Delivery.write_total sink d items w
  refine ⟨write_failed d items w, write_accepted d items w, whole, write_taken d items w, ?_⟩
  intro others same permuted
  have wholeToo : permuted.1.accepted + permuted.1.skipped + permuted.1.failed = others.length :=
    Delivery.write_total sink d others w
  have length : items.length = others.length := same.length_eq
  have fresh := freshKeys_perm w.store same
  have accepted : permuted.1.accepted = written.1.accepted := by
    rw [write_accepted, write_accepted, fresh.dedup.length_eq]
  have failed : permuted.1.failed = written.1.failed := by
    rw [write_failed, write_failed, same.countP_eq]
  refine ⟨accepted, ?_, failed, ?_, fun key => ?_⟩
  · omega
  · have ids : permuted.1.failedIds = _ := offerAll_failedIds d others w
    have idsToo : written.1.failedIds = _ := offerAll_failedIds d items w
    rw [ids, idsToo]
    exact (same.symm.filter _).map _
  · rw [write_mem_seen, write_mem_seen, fresh.mem_iff]

-- One id fails, one key is known from before and one comes twice. The batch and the batch from its end differ in the item
-- that is stored.
theorem write_by_keys_reversed :
    let item (id title : String) : Item := ⟨.atcoder, .contest, title, none, none, .epoch, .scrape, none, id, Keyed.empty⟩
    let items := [item "a" "first", item "bad" "lost", item "a" "second", item "old" "late"]
    let d : Delivery := ⟨.scrape, "up", .draft⟩
    let w := World.start Http.Network.offline ⟨["bad"], [⟨.atcoder, "old"⟩], []⟩
    let written := d.write sink items w
    let reversed := d.write sink items.reverse w
    items.Perm items.reverse ∧ written.1 = ⟨1, 2, 1, ["bad"]⟩ ∧
      reversed.1.accepted = 1 ∧ reversed.1.skipped = 2 ∧ reversed.1.failed = 1 ∧
      (∀ key, key ∈ reversed.2.store.seen ↔ key ∈ written.2.store.seen) ∧
      written.2.store.stored.map Item.title = ["first"] ∧ reversed.2.store.stored.map Item.title = ["second"] := by
  intro item items d w written reversed
  have same : items.Perm items.reverse := (List.reverse_perm items).symm
  have counted : written.1 = ⟨1, 2, 1, ["bad"]⟩ := by decide +kernel
  obtain ⟨accepted, skipped, failed, _, seen⟩ := (write_by_keys d items w).2.2.2.2 items.reverse same
  have one : written.1.accepted = 1 := by rw [counted]
  have two : written.1.skipped = 2 := by rw [counted]
  have bad : written.1.failed = 1 := by rw [counted]
  exact ⟨same, counted, accepted.trans one, skipped.trans two, failed.trans bad, seen, by decide +kernel,
    by decide +kernel⟩

end Harvester.Shelf
