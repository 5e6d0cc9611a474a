import Harvester.Proofs.Item.Drawn
import Harvester.Proofs.Shelf.Batch
namespace Harvester

-- The time of the fetch may become the date of an item, but never a part of its key, and it decides no drop.
theorem normalize_key (raw : RawItem) (provider : Provider) (now later : Instant) :
    (normalize raw provider now).map Item.key = (normalize raw provider later).map Item.key := by
  simp only [normalize]
  cases (Draft.ofRaw raw).externalId with
  | none => rfl
  | some id =>
    cases (Draft.ofRaw raw).title with
    | none => rfl
    | some title => rfl

theorem normalized_keys (provider : Provider) (now later : Instant) (raws : List RawItem) :
    (normalized provider now raws).map Item.key = (normalized provider later raws).map Item.key := by
  have option (result : Except MissingField Item) : result.toOption.map Item.key = (result.map Item.key).toOption := by
    cases result <;> rfl
  have each (raw : RawItem) : (normalize raw provider now).toOption.map Item.key =
      (normalize raw provider later).toOption.map Item.key := by
    rw [option, option, normalize_key raw provider now later]
  simp only [normalized, List.map_filterMap, each]

theorem normalized_ids (provider : Provider) (now later : Instant) (raws : List RawItem) :
    (normalized provider now raws).map Item.externalId = (normalized provider later raws).map Item.externalId := by
  have keys := congrArg (List.map ItemKey.externalId) (normalized_keys provider now later raws)
  rw [List.map_map, List.map_map] at keys
  exact keys

-- What is not rejected is normalized, so both counts follow from the keys.
theorem rejected_eq (provider : Provider) (now later : Instant) (raws : List RawItem) :
    rejected provider now raws = rejected provider later raws := by
  have keys := congrArg List.length (normalized_keys provider now later raws)
  have first := normalized_or_rejected provider now raws
  have second := normalized_or_rejected provider later raws
  simp only [List.length_map] at keys
  omega

theorem normalized_ofType {raws : List RawItem} (ofType : ∀ raw ∈ raws, raw.sourceType = sourceType)
    (provider : Provider) (now : Instant) : ∀ item ∈ normalized provider now raws, item.sourceType = sourceType := by
  intro item present
  obtain ⟨raw, member, made⟩ := List.mem_filterMap.mp present
  cases result : normalize raw provider now with
  | error missing => simp [result, Except.toOption] at made
  | ok made_ =>
    rw [result] at made
    cases made
    rw [← (normalize_drawn result).sourceType, ofType raw member]

namespace Collector

variable {c : Collector Shelf} {source : Source} {now : Instant} {run : Run} {batch : Batch} {w : World Shelf}

theorem delivered_settles (onShelf : c.sink = Shelf.sink) :
    ∀ item ∈ normalized source.provider now batch.items,
      (c.delivered source now run batch w).2.store.Settled item.key := by
  rw [delivered, onShelf]
  exact Shelf.offerAll_settles _ _ (w.note _)

theorem delivered_settled (onShelf : c.sink = Shelf.sink) (run : Run)
    (settled : ∀ item ∈ normalized source.provider now batch.items, w.store.Settled item.key) :
    (c.delivered source now run batch w).2.store = w.store ∧ (c.delivered source now run batch w).1.accepted = 0 := by
  rw [delivered, onShelf]
  exact Shelf.offerAll_settled (w := w.note _) settled

-- The same raw items under the same provider, on shelves where the same ids fail.
theorem delivered_agrees {another : Collector Shelf} {twin : Source} {later : Instant} {rerun : Run} {again : Batch}
    {v : World Shelf} (onShelf : c.sink = Shelf.sink) (onShelfToo : another.sink = Shelf.sink)
    (provider : source.provider = twin.provider) (same : batch.items = again.items)
    (failing : w.store.failing = v.store.failing) :
    (c.delivered source now run batch w).1.Agrees (another.delivered twin later rerun again v).1 := by
  rw [delivered, delivered, onShelf, onShelfToo]
  refine Shelf.offerAll_agrees (w := w.note _) (v := v.note _) ?_ failing
  rw [provider, same]
  exact normalized_ids twin.provider now later again.items

end Collector

end Harvester
