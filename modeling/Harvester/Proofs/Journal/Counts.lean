import Mathlib.Algebra.Ring.Nat
import Harvester.Proofs.Collector.Contract
namespace Harvester

variable {σ : Type}

namespace Note

-- What notes add to a counter.
def total (counter : Counter) (notes : List Note) : Nat := (notes.map (amount counter)).sum

@[simp] theorem amount_say (counter : Counter) (level : Level) (target message : String)
    (fields : List (String × Shown)) : (say level target message fields).amount counter = 0 := rfl

@[simp] theorem amount_count (counter counted : Counter) (n : Nat) :
    (count counted n).amount counter = if counted = counter then n else 0 := rfl

@[simp] theorem amount_timed (counter : Counter) (provider : Provider) : (timed provider).amount counter = 0 := rfl

@[simp] theorem amount_finished (counter : Counter) : finished.amount counter = 0 := rfl

@[simp] theorem total_nil (counter : Counter) : total counter [] = 0 := rfl

@[simp] theorem total_cons (counter : Counter) (note : Note) (rest : List Note) :
    total counter (note :: rest) = note.amount counter + total counter rest := by
  simp [total]

@[simp] theorem total_append (counter : Counter) (notes more : List Note) :
    total counter (notes ++ more) = total counter notes + total counter more := by
  simp [total]

-- Notes that only speak leave every counter as it is.
theorem total_silent {counter : Counter} {notes : List Note} (silent : ∀ note ∈ notes, note.amount counter = 0) :
    total counter notes = 0 := by
  induction notes with
  | nil => rfl
  | cons note rest ih =>
    rw [total_cons, silent note List.mem_cons_self, ih fun other later => silent other (List.mem_cons_of_mem note later)]

end Note

theorem Journal.count_addAll (journal : Journal) (notes : List Note) (counter : Counter) :
    (journal.addAll notes).count counter = journal.count counter + Note.total counter notes := by
  induction notes generalizing journal with
  | nil => rfl
  | cons note rest ih =>
    have added : (journal.add note).count counter = note.amount counter + journal.count counter := rfl
    rw [addAll_cons, ih, added, Note.total_cons]
    omega

theorem World.note_count (w : World σ) (notes : List Note) (counter : Counter) :
    (w.note notes).journal.count counter = w.journal.count counter + Note.total counter notes :=
  w.journal.count_addAll notes counter

namespace Listener

theorem faultNotes_total (name : String) (event : Event) (fault : Option ListenerFault) (counter : Counter) :
    Note.total counter (faultNotes name event fault) = 0 := by
  cases fault <;> rfl

-- A listener writes to the log and to nothing else.
theorem hear_count (listener : Listener) (position : Nat) (event : Event) (w : World σ) (counter : Counter) :
    (listener.hear position event w).journal.count counter = w.journal.count counter := by
  have written : Note.total counter ((listener.notify w.rounds event w.network).1.records.map Note.log) = 0 := by
    refine Note.total_silent fun note present => ?_
    obtain ⟨record, _, rfl⟩ := List.mem_map.mp present
    rfl
  rw [hear, World.note_count, Note.total_append, written, faultNotes_total]
  rfl

theorem tell_count (event : Event) (listeners : List Listener) (first : Nat) (w : World σ) (counter : Counter) :
    (tell event first listeners w).journal.count counter = w.journal.count counter := by
  induction listeners generalizing first w with
  | nil => rfl
  | cons listener rest ih => rw [tell, ih, hear_count]

theorem announce_count (listeners : List Listener) (event : Event) (w : World σ) (counter : Counter) :
    (announce listeners event w).journal.count counter = w.journal.count counter :=
  tell_count event listeners 0 w counter

end Listener

namespace Delivery

theorem remarks_total (d : Delivery) (item : Item) (answer : Except Refusal Unit) (counter : Counter) :
    Note.total counter (d.remarks item answer) = 0 := by
  rcases answer with refusal | ⟨⟨⟩⟩
  · cases refusal <;> rfl
  · rfl

theorem offerAll_count (sink : Sink σ) (d : Delivery) (items : List Item) (w : World σ) (counter : Counter) :
    (offerAll sink d items w).2.journal.count counter = w.journal.count counter := by
  induction items generalizing w with
  | nil => rfl
  | cons item rest ih =>
    have offered : (offer sink d item w).2.journal.count counter = w.journal.count counter := by
      rw [offer, World.note_count, remarks_total]
      rfl
    rw [offerAll, ih, offered]

-- A batch is counted at its end, by its tally.
theorem write_count (sink : Sink σ) (d : Delivery) (items : List Item) (w : World σ) (counter : Counter) :
    (d.write sink items w).2.journal.count counter =
      w.journal.count counter + Note.total counter (d.countNotes (d.write sink items w).1) := by
  rw [write, World.note_count, offerAll_count]

end Delivery

theorem droppedNotes_total (job : String) (dropped : List MissingField) (counter : Counter) :
    Note.total counter (droppedNotes job dropped) = if .dropped = counter then dropped.length else 0 := by
  have silent : Note.total counter (dropped.map fun missing =>
      Note.say .debug "devfeed_collector::ingest::orchestrator" "item dropped"
        [("job", .text job), ("error", .text missing.message)]) = 0 := by
    refine Note.total_silent fun note present => ?_
    obtain ⟨missing, _, rfl⟩ := List.mem_map.mp present
    rfl
  rw [droppedNotes, Note.total_append, silent, Nat.zero_add, Note.total_cons, Note.total_nil]
  rfl

end Harvester
