import Harvester.Proofs.Collector.Hearing
import Harvester.Proofs.Schedule.RunIds
namespace Harvester

variable {σ η α : Type}

-- What is asked of a collector in the course of its life: a run with parameters of the caller's own, which the history
-- has no part in, or what a scheduler is asked for.
inductive Demand
  | run (job : String) (now : Instant) (prior : Option Parameters) (supplied : Parameters)
  | order (order : Order)

-- The runs that were launched among many answers.
def launchedOf (answers : List (Except NotRun Outcome)) : List Outcome := answers.filterMap Except.toOption

-- All that a listener is told of the runs that were launched.
def lettersOf (answers : List (Except NotRun Outcome)) : List Event := (launchedOf answers).flatMap Outcome.events

theorem lettersOf_append (answers more : List (Except NotRun Outcome)) :
    lettersOf (answers ++ more) = lettersOf answers ++ lettersOf more := by
  simp [lettersOf, launchedOf]

namespace Collector

-- The answer for the one job that was asked for, or the outcomes of all jobs that could be run.
def meet (c : Collector σ) (history : History η) (w : World σ) (past : η) :
    Demand → List (Except NotRun Outcome) × World σ × η
  | .run job now prior supplied =>
    let (answer, after) := c.runJob now job prior supplied w
    ([answer.mapError .unknown], after, past)
  | .order order => c.carryOut history w past order

def session (c : Collector σ) (history : History η) :
    List Demand → World σ → η → List (List (Except NotRun Outcome)) × World σ × η
  | [], w, past => ([], w, past)
  | demand :: rest, w, past =>
    let (answers, after, present) := c.meet history w past demand
    let (others, last, final) := c.session history rest after present
    (answers :: others, last, final)

variable {c : Collector σ} {history : History η} {others : List Listener} {v w : World σ}

-- Every listener heard of the runs of these answers, and of nothing else.
def Told (c : Collector σ) (answers : List (Except NotRun Outcome)) (w after : World σ) : Prop :=
  ∀ listener < c.listeners.length, after.journal.heard listener = w.journal.heard listener ++ lettersOf answers

theorem Told.nothing (c : Collector σ) (w : World σ) : c.Told [] w w := fun _ _ => (List.append_nil _).symm

theorem Told.append (first : c.Told answers w between) (second : c.Told more between after) :
    c.Told (answers ++ more) w after := by
  intro listener present
  rw [second listener present, first listener present, lettersOf_append, List.append_assoc]

theorem Told.note (told : c.Told answers w after) (notes : List Note) : c.Told answers w (after.note notes) := by
  intro listener present
  rw [World.note_heard, told listener present]

end Collector

end Harvester
