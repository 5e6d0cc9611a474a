import Harvester.Proofs.Collector.Offers
import Harvester.Proofs.Http.Exchange
namespace Harvester

variable {σ : Type}

theorem Tally.zero_add (t : Tally) : zero.add t = t := by
  simp [zero, add]

theorem Tally.add_assoc (t u v : Tally) : (t.add u).add v = t.add (u.add v) := by
  simp [add, Nat.add_assoc]

namespace Delivery

-- The three answers a store has for an item.

def isTaken : Except Refusal Unit → Bool
  | .ok () => true
  | .error _ => false

def isDuplicate : Except Refusal Unit → Bool
  | .error .duplicate => true
  | _ => false

def isBroken : Except Refusal Unit → Bool
  | .error (.failed _ _) => true
  | _ => false

theorem tallied_eq (offers : Offers) : tallied offers =
    ⟨offers.countP fun offer => isTaken offer.2, offers.countP fun offer => isDuplicate offer.2,
      offers.countP fun offer => isBroken offer.2,
      (offers.filter fun offer => isBroken offer.2).map fun offer => offer.1.externalId⟩ := by
  induction offers with
  | nil => rfl
  | cons offer rest ih =>
    obtain ⟨item, answer⟩ := offer
    rw [tallied_cons, ih]
    rcases answer with (_ | _) | ⟨⟨⟩⟩
    · simp [tallyOf, Tally.add, isTaken, isDuplicate, isBroken, Nat.add_comm]
    · simp [tallyOf, Tally.add, isTaken, isDuplicate, isBroken, Nat.add_comm]
    · simp [tallyOf, Tally.add, isTaken, isDuplicate, isBroken, Nat.add_comm]

theorem stamp_eq (d : Delivery) (item : Item) :
    d.stamp item = match item.status with
      | some _ => item
      | none => { item with status := some d.defaultStatus } := by
  rcases item with ⟨provider, itemType, title, url, summary, publishedAt, sourceType, _ | status, externalId, metadata⟩
  · rfl
  · rfl

theorem offerAll_append (sink : Sink σ) (d : Delivery) (xs ys : List Item) (w : World σ) :
    offerAll sink d (xs ++ ys) w =
      let first := offerAll sink d xs w
      let second := offerAll sink d ys first.2
      (first.1.add second.1, second.2) := by
  induction xs generalizing w with
  | nil => simp only [List.nil_append, offerAll, Tally.zero_add]
  | cons item rest ih => simp only [List.cons_append, offerAll, ih, Tally.add_assoc]

-- The first of two batches ends with notes, and they are all that the second finds different.
theorem write_append (sink : Sink σ) (d : Delivery) (xs ys : List Item) (w : World σ) :
    let first := d.write sink xs w
    let second := d.write sink ys first.2
    (d.write sink (xs ++ ys) w).1 = first.1.add second.1 ∧ (d.write sink (xs ++ ys) w).2.Alike second.2 := by
  intro first second
  let between := offerAll sink d xs w
  have apart : between.2.Alike first.2 := (World.Alike.refl between.2).note [] _
  obtain ⟨tally, after⟩ := write_alike sink d ys apart
  have whole : offerAll sink d (xs ++ ys) w =
      (between.1.add (offerAll sink d ys between.2).1, (offerAll sink d ys between.2).2) :=
    offerAll_append sink d xs ys w
  constructor
  · calc (offerAll sink d (xs ++ ys) w).1 = between.1.add (offerAll sink d ys between.2).1 := by rw [whole]
      _ = first.1.add second.1 := congrArg between.1.add tally
  · have last : (d.write sink (xs ++ ys) w).2.Alike (offerAll sink d ys between.2).2 := by
      rw [write, whole]
      exact (World.Alike.refl _).note _ []
    exact ⟨last.network.trans after.network, last.store.trans after.store, last.rounds.trans after.rounds⟩

end Delivery

-- The status a call is answered with, be the body whole or broken off. There is none where the connection closes, where
-- no answer is left, and where the call does not go out.
def Http.Network.status? (network : Http.Network) (call : Http.Call) : Option Nat :=
  if network.carries call then
    match network.answers with
    | .reply status _ _ :: _ => some status
    | _ => none
  else none

theorem RemoteStore.sink_create (base : String) (item : Item) (network : Http.Network) (store : σ) :
    (sink base).create item network store = ((create base item network).1, (create base item network).2, store) := by
  simp only [sink]

theorem RemoteStore.verdict_tally (item : Item) (reply : Http.Reply) :
    Delivery.tallyOf item (verdict reply) =
      if reply.status = 200 ∨ reply.status = 201 then ⟨1, 0, 0, []⟩
      else if reply.status = 409 then ⟨0, 1, 0, []⟩ else ⟨0, 0, 1, [item.externalId]⟩ := by
  unfold verdict
  split
  · rfl
  · split
    · rfl
    · rfl

theorem RemoteStore.create_tally (base : String) (item : Item) (network : Http.Network) :
    Delivery.tallyOf item (create base item network).1 =
      match network.status? (call base item) with
      | some status =>
        if status = 200 ∨ status = 201 then ⟨1, 0, 0, []⟩
        else if status = 409 then ⟨0, 1, 0, []⟩ else ⟨0, 0, 1, [item.externalId]⟩
      | none => ⟨0, 0, 1, [item.externalId]⟩ := by
  cases carried : network.carries (call base item) with
  | false =>
    obtain ⟨e, sent, failed⟩ := Http.Network.send_uncarried carried
    simp [create, failed, Http.Network.status?, carried, Delivery.tallyOf]
  | true =>
    obtain ⟨url, built⟩ := Http.Network.carries_url carried
    cases next : network.answers with
    | nil =>
      simp [create, Http.Network.send_line carried built, next, Http.Network.status?, carried, Delivery.tallyOf]
    | cons answer rest =>
      rw [create, Http.Network.send_carried carried built next]
      cases answer with
      | closed => simp [Http.Answer.received, Http.Network.status?, carried, next, Delivery.tallyOf]
      | reply status body whole =>
        simp only [Http.Answer.received, Http.Network.status?, carried, next, if_true]
        exact verdict_tally item _

namespace Delivery

-- Every item of a batch is offered once and in its turn, whatever became of the others, and the numbers are those of the
-- answers: the watched store has seen the items as they were given, with the default status where there was none. So two
-- batches may as well be one. At a remote store the status of an answer decides what it counts as.
theorem write_homomorphic (sink : Sink σ) (d : Delivery) (w : World σ) :
    (∀ items,
      let written := d.write sink items w
      let watched := d.write sink.watched items (w.holding (w.store, []))
      let offers := watched.2.store.2
      watched = (written.1, written.2.holding (written.2.store, offers)) ∧
        (offers.map (·.1) = items.map fun item => match item.status with
          | some _ => item
          | none => { item with status := some d.defaultStatus }) ∧
        written.1.accepted = (offers.countP fun offer => isTaken offer.2) ∧
        written.1.skipped = (offers.countP fun offer => isDuplicate offer.2) ∧
        written.1.failed = (offers.countP fun offer => isBroken offer.2) ∧
        written.1.accepted + written.1.skipped + written.1.failed = items.length ∧
        written.1.failedIds = (offers.filter fun offer => isBroken offer.2).map fun offer => offer.1.externalId) ∧
    (∀ xs ys,
      let first := d.write sink xs w
      let second := d.write sink ys first.2
      let whole := d.write sink (xs ++ ys) w
      whole.1 = ⟨first.1.accepted + second.1.accepted, first.1.skipped + second.1.skipped,
          first.1.failed + second.1.failed, first.1.failedIds ++ second.1.failedIds⟩ ∧
        whole.2.store = second.2.store ∧ whole.2.network = second.2.network) ∧
    ∀ (base : String) (item : Item) (network : Http.Network) (store : σ),
      let created := (RemoteStore.sink base).create item network store
      created.2.2 = store ∧
        tallyOf item created.1 =
          match network.status? (RemoteStore.call base item) with
          | some status =>
            if status = 200 ∨ status = 201 then ⟨1, 0, 0, []⟩
            else if status = 409 then ⟨0, 1, 0, []⟩ else ⟨0, 0, 1, [item.externalId]⟩
          | none => ⟨0, 0, 1, [item.externalId]⟩ := by
  refine ⟨fun items => ?_, fun xs ys => ?_, fun base item network store => ?_⟩
  · intro written watched offers
    have observed : watched = (written.1, written.2.holding (written.2.store, Delivery.offers sink d items w)) :=
      write_watched sink d items w []
    have seen : offers = Delivery.offers sink d items w := congrArg (fun done => done.2.store.2) observed
    have counted : written.1 = tallied offers := by
      rw [seen]
      exact write_tally sink d items w
    have given : offers.map (·.1) = items.map d.stamp := by
      rw [seen]
      exact offers_items sink d items w
    rw [funext d.stamp_eq] at given
    refine ⟨by rw [seen]; exact observed, given, ?_, ?_, ?_, write_total sink d items w, ?_⟩
    all_goals rw [counted, tallied_eq]
  · obtain ⟨tally, after⟩ := write_append sink d xs ys w
    exact ⟨tally, after.store, after.network⟩
  · simp only [RemoteStore.sink_create]
    exact ⟨trivial, RemoteStore.create_tally base item network⟩

-- An answer that breaks off still has its status.
example :
    let item (id : String) : Item := ⟨.atcoder, .contest, "A", none, none, .epoch, .scrape, none, id, Keyed.empty⟩
    let answers : List Http.Answer := [.reply 201 [] false, .reply 409 [] true, .reply 500 [] false, .closed]
    let w : World Unit := .start ⟨true, true, answers, []⟩ ()
    (write (RemoteStore.sink "http://store") ⟨.scrape, "up", .draft⟩ (["a", "b", "c", "d"].map item) w).1 =
      ⟨1, 1, 2, ["c", "d"]⟩ := by
  decide +kernel

end Delivery

end Harvester
