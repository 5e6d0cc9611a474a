import Harvester.Collector
namespace Harvester

variable {σ τ : Type}

namespace World

-- The same world around another store.
def holding (w : World σ) (store : τ) : World τ := ⟨w.network, store, w.journal, w.rounds⟩

@[simp] theorem note_store (w : World σ) (notes : List Note) : (w.note notes).store = w.store := rfl

@[simp] theorem note_heard (w : World σ) (notes : List Note) (listener : Nat) :
    (w.note notes).journal.heard listener = w.journal.heard listener := by
  simp [note]

theorem note_append (w : World σ) (notes more : List Note) : (w.note notes).note more = w.note (notes ++ more) := by
  simp only [note, Journal.addAll, List.foldl_append]

-- Two worlds that are told apart by their journals at most.
structure Alike (w v : World σ) : Prop where
  network : w.network = v.network
  store : w.store = v.store
  rounds : w.rounds = v.rounds

theorem Alike.refl (w : World σ) : w.Alike w := ⟨rfl, rfl, rfl⟩

theorem Alike.note {w v : World σ} (alike : w.Alike v) (notes more : List Note) : (w.note notes).Alike (v.note more) :=
  ⟨alike.network, alike.store, alike.rounds⟩

end World

namespace Listener

theorem hear_store (listener : Listener) (position : Nat) (event : Event) (w : World σ) :
    (listener.hear position event w).store = w.store := rfl

theorem hear_heard (head : Listener) (position : Nat) (event : Event) (w : World σ) (listener : Nat) :
    (head.hear position event w).journal.heard listener =
      w.journal.heard listener ++ if position = listener then [event] else [] := by
  rw [hear, World.note_heard, Journal.heard_tell]

theorem tell_store (event : Event) (listeners : List Listener) (first : Nat) (w : World σ) :
    (tell event first listeners w).store = w.store := by
  induction listeners generalizing first w with
  | nil => rfl
  | cons listener rest ih => rw [tell, ih, hear_store]

-- Every listener is told once; `first` is the position of the first of them.
theorem tell_heard (event : Event) (listeners : List Listener) (first : Nat) (w : World σ) (listener : Nat) :
    (tell event first listeners w).journal.heard listener =
      w.journal.heard listener ++ if first ≤ listener ∧ listener < first + listeners.length then [event] else [] := by
  induction listeners generalizing first w with
  | nil =>
    rw [tell, List.length_nil, if_neg (by omega), List.append_nil]
  | cons head rest ih =>
    rw [tell, ih, hear_heard, List.append_assoc, List.length_cons]
    congr 1
    by_cases here : first = listener
    · have gone : ¬ (first + 1 ≤ listener ∧ listener < first + 1 + rest.length) := by omega
      have within : first ≤ listener ∧ listener < first + (rest.length + 1) := by omega
      rw [if_pos here, if_neg gone, if_pos within, List.append_nil]
    · have same : (first + 1 ≤ listener ∧ listener < first + 1 + rest.length) ↔
          (first ≤ listener ∧ listener < first + (rest.length + 1)) := by omega
      simp only [here, if_false, List.nil_append, same]

@[simp] theorem announce_store (listeners : List Listener) (event : Event) (w : World σ) :
    (announce listeners event w).store = w.store := tell_store event listeners 0 w

theorem announce_heard {listeners : List Listener} {listener : Nat} (present : listener < listeners.length)
    (event : Event) (w : World σ) :
    (announce listeners event w).journal.heard listener = w.journal.heard listener ++ [event] := by
  have told := tell_heard event listeners 0 w listener
  simpa [announce, present] using told

end Listener

end Harvester
