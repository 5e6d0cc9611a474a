import Harvester.Item
namespace Harvester

-- A round of the contest list. Whether it belongs to the gym depends on which list was asked for.
structure Round where
  id : Option Int
  name : Option String
  kind : Option String
  phase : Option String
  durationSeconds : Option Int
  startTimeSeconds : Option Int
  gym : Bool
deriving Repr, DecidableEq, Inhabited

open Json

def Round.slots : List Slot :=
  [slot "id", slot "name", slot "type", slot "phase", slot "durationSeconds", slot "startTimeSeconds"]

def Round.ofJson? (doc : Json) : Option Round := do
  let get ← members? slots doc
  let id ← optional long? (get "id")
  let name ← optional string? (get "name")
  let kind ← optional string? (get "type")
  let phase ← optional string? (get "phase")
  let durationSeconds ← optional long? (get "durationSeconds")
  let startTimeSeconds ← optional long? (get "startTimeSeconds")
  some ⟨id, name, kind, phase, durationSeconds, startTimeSeconds, false⟩

-- The list, or the service's comment on why there is none.
structure RoundList where
  status : String
  comment : Option String
  result : Option (List Round)
deriving Repr, DecidableEq, Inhabited

def RoundList.ofJson? (doc : Json) : Option RoundList := do
  let get ← members? [slot "status", slot "comment", slot "result"] doc
  let status ← required string? (get "status")
  let comment ← optional string? (get "comment")
  let result ← optional (listOf? Round.ofJson?) (get "result")
  some ⟨status, comment, result⟩

end Harvester
