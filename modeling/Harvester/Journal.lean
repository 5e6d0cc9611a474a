import Harvester.Event
namespace Harvester

inductive Level
  | debug | info | warn | error
deriving Repr, DecidableEq, Inhabited

def Level.name : Level → String
  | .debug => "DEBUG"
  | .info => "INFO"
  | .warn => "WARN"
  | .error => "ERROR"

inductive Shown
  | text (value : String)
  | number (value : Int)
deriving Repr, DecidableEq, Inhabited

def Shown.toText : Shown → String
  | .text s => s
  | .number n => toString n

structure LogRecord where
  level : Level
  target : String
  message : String
  fields : List (String × Shown)
deriving Repr, DecidableEq, Inhabited

-- What is counted over the life of the collector.
inductive Counter
  | fetched (provider : Provider)
  | dropped
  | accepted (source : SourceType)
  | skipped (source : SourceType)
  | failed (source : SourceType)
  | feedFailures
  | jobFailures
  | ticks
deriving Repr, DecidableEq, Inhabited

-- One entry of the journal. A counter may grow by nothing, which still makes it appear. `timed` is a fetch whose
-- duration was taken, `finished` sets the time of the last completed job.
inductive Note
  | log (record : LogRecord)
  | count (counter : Counter) (amount : Nat)
  | timed (provider : Provider)
  | finished
deriving Repr, DecidableEq, Inhabited

namespace Note

def log? : Note → Option LogRecord
  | .log record => some record
  | _ => none

def amount (counter : Counter) : Note → Nat
  | .count c n => if c = counter then n else 0
  | _ => 0

def say (level : Level) (target message : String) (fields : List (String × Shown)) : Note :=
  .log ⟨level, target, message, fields⟩

end Note

-- What happened, newest entry first. `told` are the events with the position of the listener each was told to; a note
-- never tells an event.
structure Journal where
  newest : List Note
  told : List (Nat × Event)
deriving Repr, Inhabited

namespace Journal

def empty : Journal := ⟨[], []⟩

def add (journal : Journal) (note : Note) : Journal := { journal with newest := note :: journal.newest }

def addAll (journal : Journal) (notes : List Note) : Journal := notes.foldl add journal

def tell (journal : Journal) (listener : Nat) (event : Event) : Journal :=
  { journal with told := (listener, event) :: journal.told }

-- In the order of events.
def notes (journal : Journal) : List Note := journal.newest.reverse

def logs (journal : Journal) : List LogRecord := journal.notes.filterMap Note.log?

def count (journal : Journal) (counter : Counter) : Nat := journal.newest.foldr (fun note total => note.amount counter + total) 0

-- The events one listener was told, oldest first.
def heard (journal : Journal) (listener : Nat) : List Event :=
  (journal.told.reverse.filter fun letter => letter.1 == listener).map (·.2)

@[simp] theorem notes_empty : empty.notes = [] := rfl

@[simp] theorem notes_add (journal : Journal) (note : Note) : (journal.add note).notes = journal.notes ++ [note] := by
  simp [notes, add]

theorem addAll_cons (journal : Journal) (note : Note) (rest : List Note) :
    journal.addAll (note :: rest) = (journal.add note).addAll rest := rfl

@[simp] theorem notes_addAll (journal : Journal) (more : List Note) :
    (journal.addAll more).notes = journal.notes ++ more := by
  induction more generalizing journal with
  | nil => simp [addAll]
  | cons note rest ih => simp [addAll_cons, ih]

@[simp] theorem told_addAll (journal : Journal) (more : List Note) : (journal.addAll more).told = journal.told := by
  induction more generalizing journal with
  | nil => rfl
  | cons note rest ih => rw [addAll_cons, ih]; rfl

@[simp] theorem heard_addAll (journal : Journal) (more : List Note) (listener : Nat) :
    (journal.addAll more).heard listener = journal.heard listener := by
  simp [heard]

@[simp] theorem heard_tell (journal : Journal) (listener i : Nat) (event : Event) :
    (journal.tell i event).heard listener = journal.heard listener ++ if i = listener then [event] else [] := by
  by_cases same : i = listener <;> simp [heard, tell, same]

end Journal

end Harvester
