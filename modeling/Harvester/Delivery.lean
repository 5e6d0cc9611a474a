import Harvester.Sink
import Harvester.World
namespace Harvester

-- How a job hands its items over.
structure Delivery where
  sourceType : SourceType
  job : String
  defaultStatus : Status
deriving Repr, DecidableEq, Inhabited

namespace Delivery

def target : String := "devfeed_collector::ingest::writer"

-- An item without a status gets the default one.
def stamp (d : Delivery) (item : Item) : Item := { item with status := some (item.status.getD d.defaultStatus) }

def tallyOf (item : Item) : Except Refusal Unit → Tally
  | .ok () => ⟨1, 0, 0, []⟩
  | .error .duplicate => ⟨0, 1, 0, []⟩
  | .error (.failed _ _) => ⟨0, 0, 1, [item.externalId]⟩

def remarks (d : Delivery) (item : Item) : Except Refusal Unit → List Note
  | .ok () => []
  | .error .duplicate =>
    [.say .debug target "duplicate, skipped" [("job", .text d.job), ("external_id", .text item.externalId)]]
  | .error refusal =>
    [.say .warn target "write failed" [("job", .text d.job), ("provider", .text item.provider.name),
      ("external_id", .text item.externalId), ("error", .text refusal.message)]]

def offer (sink : Sink σ) (d : Delivery) (item : Item) (w : World σ) : Tally × World σ :=
  let stamped := d.stamp item
  let (answer, network, store) := sink.create stamped w.network w.store
  (tallyOf stamped answer, { w with network, store }.note (d.remarks stamped answer))

-- Every item is offered, whatever becomes of the ones before it.
def offerAll (sink : Sink σ) (d : Delivery) : List Item → World σ → Tally × World σ
  | [], w => (.zero, w)
  | item :: rest, w =>
    let (first, middle) := offer sink d item w
    let (others, last) := offerAll sink d rest middle
    (first.add others, last)

def countNotes (d : Delivery) (t : Tally) : List Note :=
  [.count (.accepted d.sourceType) t.accepted, .count (.skipped d.sourceType) t.skipped,
    .count (.failed d.sourceType) t.failed,
    .say .info target "write finished" [("job", .text d.job), ("accepted", .number t.accepted),
      ("skipped", .number t.skipped), ("failed", .number t.failed)]]

def write (sink : Sink σ) (d : Delivery) (items : List Item) (w : World σ) : Tally × World σ :=
  let (tally, after) := offerAll sink d items w
  (tally, after.note (d.countNotes tally))

end Delivery

end Harvester
