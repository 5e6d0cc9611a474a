import Harvester.Proofs.Collector.Announce
namespace Harvester

variable {σ : Type}

-- What a store was offered, with its answers.
abbrev Offers := List (Item × Except Refusal Unit)

-- The same store, beside a list of everything it is offered.
def Sink.watched (sink : Sink σ) : Sink (σ × Offers) where
  create item network store :=
    let (answer, after, inner) := sink.create item network store.1
    (answer, after, inner, store.2 ++ [(item, answer)])

namespace Delivery

def offers (sink : Sink σ) (d : Delivery) : List Item → World σ → Offers
  | [], _ => []
  | item :: rest, w =>
    (d.stamp item, (sink.create (d.stamp item) w.network w.store).1) :: offers sink d rest (offer sink d item w).2

theorem offers_items (sink : Sink σ) (d : Delivery) (items : List Item) (w : World σ) :
    (offers sink d items w).map (·.1) = items.map d.stamp := by
  induction items generalizing w with
  | nil => rfl
  | cons item rest ih => simp [offers, ih]

-- The numbers of a batch are those of its answers, one after the other.
def tallied (offers : Offers) : Tally := offers.foldr (fun entry rest => (tallyOf entry.1 entry.2).add rest) .zero

theorem offerAll_tally (sink : Sink σ) (d : Delivery) (items : List Item) (w : World σ) :
    (offerAll sink d items w).1 = tallied (offers sink d items w) := by
  induction items generalizing w with
  | nil => rfl
  | cons item rest ih =>
    simp only [offerAll, offers, tallied, List.foldr_cons]
    rw [ih]
    rfl

theorem offerAll_heard (sink : Sink σ) (d : Delivery) (items : List Item) (w : World σ) (listener : Nat) :
    (offerAll sink d items w).2.journal.heard listener = w.journal.heard listener := by
  induction items generalizing w with
  | nil => rfl
  | cons item rest ih =>
    have offered : (offer sink d item w).2.journal.heard listener = w.journal.heard listener := World.note_heard _ _ _
    rw [offerAll, ih, offered]

theorem write_heard (sink : Sink σ) (d : Delivery) (items : List Item) (w : World σ) (listener : Nat) :
    (d.write sink items w).2.journal.heard listener = w.journal.heard listener := by
  rw [write, World.note_heard, offerAll_heard]

-- What a store is offered and answers does not hang on the journal.
theorem offer_alike (sink : Sink σ) (d : Delivery) (item : Item) {w v : World σ} (alike : w.Alike v) :
    (offer sink d item w).1 = (offer sink d item v).1 ∧ (offer sink d item w).2.Alike (offer sink d item v).2 := by
  obtain ⟨network, store, journal, rounds⟩ := w
  obtain ⟨_, _, other, _⟩ := v
  obtain ⟨rfl, rfl, rfl⟩ := alike
  exact ⟨rfl, rfl, rfl, rfl⟩

theorem offerAll_alike (sink : Sink σ) (d : Delivery) (items : List Item) {w v : World σ} (alike : w.Alike v) :
    (offerAll sink d items w).1 = (offerAll sink d items v).1 ∧
      (offerAll sink d items w).2.Alike (offerAll sink d items v).2 := by
  induction items generalizing w v with
  | nil => exact ⟨rfl, alike⟩
  | cons item rest ih =>
    obtain ⟨first, between⟩ := offer_alike sink d item alike
    obtain ⟨others, after⟩ := ih between
    simp only [offerAll]
    rw [first, others]
    exact ⟨rfl, after⟩

theorem write_alike (sink : Sink σ) (d : Delivery) (items : List Item) {w v : World σ} (alike : w.Alike v) :
    (d.write sink items w).1 = (d.write sink items v).1 ∧ (d.write sink items w).2.Alike (d.write sink items v).2 := by
  obtain ⟨tally, after⟩ := offerAll_alike sink d items alike
  exact ⟨tally, after.note _ _⟩

theorem offer_watched (sink : Sink σ) (d : Delivery) (item : Item) (w : World σ) (seen : Offers) :
    offer sink.watched d item (w.holding (w.store, seen)) =
      ((offer sink d item w).1, (offer sink d item w).2.holding ((offer sink d item w).2.store,
        seen ++ [(d.stamp item, (sink.create (d.stamp item) w.network w.store).1)])) := rfl

theorem offerAll_watched (sink : Sink σ) (d : Delivery) (items : List Item) (w : World σ) (seen : Offers) :
    offerAll sink.watched d items (w.holding (w.store, seen)) =
      ((offerAll sink d items w).1, (offerAll sink d items w).2.holding ((offerAll sink d items w).2.store,
        seen ++ offers sink d items w)) := by
  induction items generalizing w seen with
  | nil => simp [offerAll, offers]
  | cons item rest ih => simp only [offerAll, offers, offer_watched, ih, List.append_assoc, List.singleton_append]

theorem write_watched (sink : Sink σ) (d : Delivery) (items : List Item) (w : World σ) (seen : Offers) :
    d.write sink.watched items (w.holding (w.store, seen)) =
      ((d.write sink items w).1, (d.write sink items w).2.holding ((d.write sink items w).2.store,
        seen ++ offers sink d items w)) := by
  simp only [write, offerAll_watched]
  rfl

theorem tallied_cons (entry : Item × Except Refusal Unit) (rest : Offers) :
    tallied (entry :: rest) = (tallyOf entry.1 entry.2).add (tallied rest) := rfl

theorem tallyOf_total (item : Item) (answer : Except Refusal Unit) : (tallyOf item answer).total = 1 := by
  rcases answer with refusal | ⟨⟨⟩⟩
  · cases refusal <;> rfl
  · rfl

theorem tallyOf_failed (item : Item) (answer : Except Refusal Unit) :
    (tallyOf item answer).failedIds.length = (tallyOf item answer).failed := by
  rcases answer with refusal | ⟨⟨⟩⟩
  · cases refusal <;> rfl
  · rfl

theorem total_add (t u : Tally) : (t.add u).total = t.total + u.total := by
  simp only [Tally.total, Tally.add]
  omega

-- Every offer is counted exactly once.
theorem tallied_total (offers : Offers) : (tallied offers).total = offers.length := by
  induction offers with
  | nil => rfl
  | cons entry rest ih => rw [tallied_cons, total_add, tallyOf_total, ih, List.length_cons, Nat.add_comm]

theorem tallied_failed (offers : Offers) : (tallied offers).failedIds.length = (tallied offers).failed := by
  induction offers with
  | nil => rfl
  | cons entry rest ih => simp [tallied_cons, Tally.add, tallyOf_failed, ih]

theorem write_tally (sink : Sink σ) (d : Delivery) (items : List Item) (w : World σ) :
    (d.write sink items w).1 = tallied (offers sink d items w) := offerAll_tally sink d items w

theorem write_total (sink : Sink σ) (d : Delivery) (items : List Item) (w : World σ) :
    (d.write sink items w).1.total = items.length := by
  have offered := congrArg List.length (offers_items sink d items w)
  rw [List.length_map, List.length_map] at offered
  rw [write_tally, tallied_total, offered]

theorem write_failed (sink : Sink σ) (d : Delivery) (items : List Item) (w : World σ) :
    (d.write sink items w).1.failedIds.length = (d.write sink items w).1.failed := by
  rw [write_tally, tallied_failed]

end Delivery

end Harvester
