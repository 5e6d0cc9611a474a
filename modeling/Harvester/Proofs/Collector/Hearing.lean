import Harvester.Proofs.Collector.Contract
namespace Harvester

open Http

variable {σ : Type}

namespace Listener

-- The network after all listeners in turn have made use of it for an event.
def passed (event : Event) (rounds : Nat) : List Listener → Network → Network
  | [], network => network
  | listener :: rest, network => passed event rounds rest (listener.notify rounds event network).2

-- The same listener, but how each of its notifications ends is decided by how many events came before.
def failing (verdict : Nat → Option ListenerFault) (listener : Listener) : Listener where
  name := listener.name
  notify rounds event network :=
    let (told, after) := listener.notify rounds event network
    ({ told with fault := verdict rounds }, after)

-- Every notification of every listener ends as it is decided for its position and event.
def judged (verdicts : Nat → Nat → Option ListenerFault) (listeners : List Listener) : List Listener :=
  listeners.mapIdx fun position listener => listener.failing (verdicts position)

@[simp] theorem judged_length (verdicts : Nat → Nat → Option ListenerFault) (listeners : List Listener) :
    (judged verdicts listeners).length = listeners.length := List.length_mapIdx

end Listener

-- What the listeners are told of a run that was launched.
def Outcome.events : Outcome → List Event
  | .completed run report _ => [.starting run, .completed run report]
  | .failed run e _ => [.starting run, .failed run e.message]

namespace Collector

variable {c : Collector σ} {others : List Listener} {v w : World σ}

end Collector

end Harvester
