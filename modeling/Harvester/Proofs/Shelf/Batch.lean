import Harvester.Proofs.Shelf.Growth
namespace Harvester

-- Two tallies of the same items: what one shelf accepts another may skip, and that is all in which they differ.
structure Tally.Agrees (t u : Tally) : Prop where
  handled : t.accepted + t.skipped = u.accepted + u.skipped
  failed : t.failed = u.failed
  failedIds : t.failedIds = u.failedIds

theorem Tally.Agrees.add {t u v x : Tally} (first : t.Agrees u) (second : v.Agrees x) :
    (t.add v).Agrees (u.add x) := by
  refine ⟨?_, ?_, ?_⟩
  · have early := first.handled
    have late := second.handled
    simp only [Tally.add]
    omega
  · simp only [Tally.add, first.failed, second.failed]
  · simp only [Tally.add, first.failedIds, second.failedIds]

namespace Shelf

variable {item : Item} {shelf : Shelf} {items : List Item} {w : World Shelf} {d : Delivery}

theorem create_failing (failing : item.externalId ∈ shelf.failing) :
    create item shelf = (.error (.failed (some 500) "simulated failure"), shelf) := by
  rw [create, if_pos failing]

theorem create_seen (sound : item.externalId ∉ shelf.failing) (seen : item.key ∈ shelf.seen) :
    create item shelf = (.error .duplicate, shelf) := by
  rw [create, if_neg sound, if_pos seen]

theorem create_new (sound : item.externalId ∉ shelf.failing) (unseen : item.key ∉ shelf.seen) :
    create item shelf = (.ok (), { shelf with seen := item.key :: shelf.seen, stored := shelf.stored ++ [item] }) := by
  rw [create, if_neg sound, if_neg unseen]

-- No item of this key is taken any more: its id fails, or it counts as a duplicate.
def Settled (shelf : Shelf) (key : ItemKey) : Prop := key.externalId ∈ shelf.failing ∨ key ∈ shelf.seen

theorem Grows.settled (grows : Grows before fresh after) (settled : before.Settled key) : after.Settled key := by
  rcases settled with failing | seen
  · exact .inl (grows.failing ▸ failing)
  · exact .inr (grows.seen key seen)

theorem create_settles (item : Item) (shelf : Shelf) : (create item shelf).2.Settled item.key := by
  by_cases failing : item.externalId ∈ shelf.failing
  · rw [create_failing failing]
    exact .inl failing
  · by_cases seen : item.key ∈ shelf.seen
    · rw [create_seen failing seen]
      exact .inr seen
    · rw [create_new failing seen]
      exact .inr List.mem_cons_self

theorem create_settled (settled : shelf.Settled item.key) :
    (create item shelf).2 = shelf ∧ (Delivery.tallyOf item (create item shelf).1).accepted = 0 := by
  by_cases failing : item.externalId ∈ shelf.failing
  · rw [create_failing failing]
    exact ⟨rfl, rfl⟩
  · rw [create_seen failing (settled.resolve_left failing)]
    exact ⟨rfl, rfl⟩

-- Which ids fail decides all but how the rest divides.
theorem create_agrees (item other : Item) {shelf another : Shelf} (ids : item.externalId = other.externalId)
    (failing : shelf.failing = another.failing) :
    (Delivery.tallyOf item (create item shelf).1).Agrees (Delivery.tallyOf other (create other another).1) := by
  by_cases fails : item.externalId ∈ shelf.failing
  · have failsToo : other.externalId ∈ another.failing := by rw [← ids, ← failing]; exact fails
    rw [create_failing fails, create_failing failsToo]
    exact ⟨rfl, rfl, by simp only [Delivery.tallyOf, ids]⟩
  · have soundToo : other.externalId ∉ another.failing := by rw [← ids, ← failing]; exact fails
    by_cases seen : item.key ∈ shelf.seen <;> by_cases seenToo : other.key ∈ another.seen
    · rw [create_seen fails seen, create_seen soundToo seenToo]
      exact ⟨rfl, rfl, rfl⟩
    · rw [create_seen fails seen, create_new soundToo seenToo]
      exact ⟨rfl, rfl, rfl⟩
    · rw [create_new fails seen, create_seen soundToo seenToo]
      exact ⟨rfl, rfl, rfl⟩
    · rw [create_new fails seen, create_new soundToo seenToo]
      exact ⟨rfl, rfl, rfl⟩

theorem create_keeps_failing (item : Item) (shelf : Shelf) : (create item shelf).2.failing = shelf.failing := by
  obtain ⟨fresh, grows, _⟩ := create_grows item shelf
  exact grows.failing

-- A batch settles the keys of all its items, and whatever becomes of the shelf they stay settled.
theorem offerAll_settles (d : Delivery) (items : List Item) (w : World Shelf) :
    ∀ item ∈ items, (Delivery.offerAll sink d items w).2.store.Settled item.key := by
  induction items generalizing w with
  | nil => exact fun _ present => absurd present List.not_mem_nil
  | cons first rest ih =>
    intro item present
    rcases List.mem_cons.mp present with rfl | later
    · obtain ⟨fresh, grows, _⟩ := offerAll_grows d rest (Delivery.offer sink d item w).2
      exact grows.settled (create_settles (d.stamp item) w.store)
    · exact ih (Delivery.offer sink d first w).2 item later

-- Offered again, the items change nothing.
theorem offerAll_settled (settled : ∀ item ∈ items, w.store.Settled item.key) :
    (Delivery.offerAll sink d items w).2.store = w.store ∧ (Delivery.offerAll sink d items w).1.accepted = 0 := by
  induction items generalizing w with
  | nil => exact ⟨rfl, rfl⟩
  | cons item rest ih =>
    have offered : w.store.Settled (d.stamp item).key := settled item List.mem_cons_self
    obtain ⟨kept, none_⟩ := create_settled offered
    have same : (Delivery.offer sink d item w).2.store = w.store := kept
    obtain ⟨keptLater, noneLater⟩ := ih (w := (Delivery.offer sink d item w).2) fun other later => by
      rw [same]
      exact settled other (List.mem_cons_of_mem item later)
    refine ⟨keptLater.trans same, ?_⟩
    simp only [Delivery.offerAll, Tally.add, noneLater]
    exact none_

theorem offerAll_agrees {others : List Item} {v : World Shelf} {e : Delivery}
    (ids : items.map Item.externalId = others.map Item.externalId) (failing : w.store.failing = v.store.failing) :
    (Delivery.offerAll sink d items w).1.Agrees (Delivery.offerAll sink e others v).1 := by
  induction items generalizing others w v with
  | nil =>
    cases others with
    | nil => exact ⟨rfl, rfl, rfl⟩
    | cons => cases ids
  | cons item rest ih =>
    cases others with
    | nil => cases ids
    | cons other more =>
      obtain ⟨first, later⟩ := List.cons.inj ids
      have still : (Delivery.offer sink d item w).2.store.failing = (Delivery.offer sink e other v).2.store.failing :=
        calc (create (d.stamp item) w.store).2.failing = w.store.failing := create_keeps_failing _ _
          _ = v.store.failing := failing
          _ = (create (e.stamp other) v.store).2.failing := (create_keeps_failing _ _).symm
      exact (create_agrees (d.stamp item) (e.stamp other) first failing).add (ih later still)

theorem create_takes (item : Item) (shelf : Shelf) :
    ∃ fresh, (create item shelf).2.stored = shelf.stored ++ fresh ∧
      fresh.length = (Delivery.tallyOf item (create item shelf).1).accepted ∧ fresh.Sublist [item] := by
  rcases answer : (create item shelf).1 with refusal | ⟨⟨⟩⟩
  · rw [create_refused answer]
    refine ⟨[], (List.append_nil _).symm, ?_, List.nil_sublist _⟩
    cases refusal <;> rfl
  · exact ⟨[item], (create_taken answer).stored, rfl, List.Sublist.refl _⟩

-- What is taken of a batch stands behind the old items, in the order of the batch and as it was stamped.
theorem offerAll_takes (d : Delivery) (items : List Item) (w : World Shelf) :
    ∃ fresh, (Delivery.offerAll sink d items w).2.store.stored = w.store.stored ++ fresh ∧
      fresh.length = (Delivery.offerAll sink d items w).1.accepted ∧ fresh.Sublist (items.map d.stamp) := by
  induction items generalizing w with
  | nil => exact ⟨[], (List.append_nil _).symm, rfl, List.Sublist.refl _⟩
  | cons item rest ih =>
    obtain ⟨early, first, counted, offered⟩ := create_takes (d.stamp item) w.store
    obtain ⟨late, others, countedLate, offeredLate⟩ := ih (Delivery.offer sink d item w).2
    change (Delivery.offer sink d item w).2.store.stored = w.store.stored ++ early at first
    refine ⟨early ++ late, ?_, ?_, offered.append offeredLate⟩
    · rw [Delivery.offerAll, others, first, List.append_assoc]
    · rw [List.length_append, counted, countedLate]
      rfl

-- How many items of a type stand on a shelf.
def stock (shelf : Shelf) (sourceType : SourceType) : Nat :=
  shelf.stored.countP fun item => item.sourceType == sourceType

theorem offerAll_stock (d : Delivery) {items : List Item} (ofType : ∀ item ∈ items, item.sourceType = kind)
    (w : World Shelf) (sourceType : SourceType) :
    (Delivery.offerAll sink d items w).2.store.stock sourceType = w.store.stock sourceType +
      if kind = sourceType then (Delivery.offerAll sink d items w).1.accepted else 0 := by
  obtain ⟨fresh, stored, counted, offered⟩ := offerAll_takes d items w
  have freshOfType : ∀ item ∈ fresh, item.sourceType = kind := by
    intro item present
    obtain ⟨plain, member, rfl⟩ := List.mem_map.mp (offered.subset present)
    exact ofType plain member
  have freshStock : (fresh.countP fun item => item.sourceType == sourceType) =
      if kind = sourceType then fresh.length else 0 := by
    split
    · rename_i same
      exact List.countP_eq_length.mpr fun item present => by simp [freshOfType item present, same]
    · rename_i other
      exact List.countP_eq_zero.mpr fun item present => by simp [freshOfType item present, other]
  rw [stock, stored, List.countP_append, freshStock, counted]
  rfl

end Shelf

end Harvester
