import Harvester.Http.Network
import Harvester.Journal
namespace Harvester

open Http

-- What the jobs of the collector share: the network, the state of the store, the journal, and how many events the
-- listeners have been told.
structure World (σ : Type) where
  network : Network
  store : σ
  journal : Journal
  rounds : Nat
deriving Repr, Inhabited

namespace World

def start (network : Network) (store : σ) : World σ := ⟨network, store, .empty, 0⟩

def note (w : World σ) (notes : List Note) : World σ := { w with journal := w.journal.addAll notes }

end World

end Harvester
