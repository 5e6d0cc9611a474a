import Harvester.Proofs.History.Unreadable
import Harvester.Proofs.Schedule.RunIds
namespace Harvester

variable {σ η : Type}

-- What can be asked of a history and of the scheduler over it.
inductive Inquiry
  | call (call : HistoryCall)
  | order (order : Order)

inductive Response
  | called (answer : HistoryAnswer)
  | ordered (answers : List (Except NotRun Outcome))

namespace Inquiry

-- The answer where the history is at fault: an error for every call and for every job that was asked for by name, and no
-- outcomes where all were asked for.
def refused (fault : HistoryFault) : Inquiry → Response
  | .call _ => .called (.refused fault)
  | .order (.one job _) => .ordered [.error (.history job fault)]
  | .order (.all _) => .ordered []

-- All that is noted then: the jobs that were left out.
def warnings (names : List String) (fault : HistoryFault) : Inquiry → List Note
  | .call _ => []
  | .order (.one _ _) => []
  | .order (.all _) => names.flatMap fun job => skippedNotes job (.history job fault)

end Inquiry

namespace Collector

def serve (c : Collector σ) (history : History η) (w : World σ) (past : η) : Inquiry → Response × World σ × η
  | .call call =>
    let (answer, present) := history.answer past call
    (.called answer, w, present)
  | .order order =>
    let (answers, after, present) := c.carryOut history w past order
    (.ordered answers, after, present)

def serveAll (c : Collector σ) (history : History η) : List Inquiry → World σ → η → List Response × World σ × η
  | [], w, past => ([], w, past)
  | inquiry :: rest, w, past =>
    let (first, after, present) := c.serve history w past inquiry
    let (others, last, final) := c.serveAll history rest after present
    (first :: others, last, final)

variable {c : Collector σ} {history : History η} {past : η} {fault : HistoryFault}

-- The history is asked before anything is started.
theorem runOne_refused (refuses : history.Refuses past fault) (now : Instant) (job : String) (w : World σ) :
    c.runOne history now job w past = (.error (.history job fault), w, past) := by
  rw [runOne, refuses.last]

theorem runEach_refused (refuses : history.Refuses past fault) (now : Instant) (names : List String) (w : World σ) :
    c.runEach history now names w past =
      ([], w.note (names.flatMap fun job => skippedNotes job (.history job fault)), past) := by
  induction names generalizing w with
  | nil => rfl
  | cons job rest ih => rw [runEach, runOne_refused refuses, List.flatMap_cons, ← World.note_append, ← ih]

theorem serve_refused (refuses : history.Refuses past fault) (inquiry : Inquiry) (w : World σ) :
    c.serve history w past inquiry = (inquiry.refused fault, w.note (inquiry.warnings c.jobs.keys fault), past) := by
  cases inquiry with
  | call call =>
    rw [serve, refuses.answer]
    rfl
  | order order =>
    cases order with
    | one job now =>
      simp only [serve, carryOut, runOne_refused refuses]
      rfl
    | all now =>
      simp only [serve, carryOut, runAll, runEach_refused refuses]
      rfl

theorem serveAll_refused (refuses : history.Refuses past fault) (inquiries : List Inquiry) (w : World σ) :
    c.serveAll history inquiries w past =
      (inquiries.map (Inquiry.refused fault), w.note (inquiries.flatMap (Inquiry.warnings c.jobs.keys fault)), past) := by
  induction inquiries generalizing w with
  | nil => rfl
  | cons inquiry rest ih =>
    simp only [serveAll, serve_refused refuses, ih, World.note_append]
    rfl

-- A history kept in a file that is neither blank nor an object of objects of texts and longs. Every call and every job
-- asked for by name is refused, all jobs together come to no outcomes, and the disk stays as it is with the text in it.
-- Nothing but the warnings of the scheduler happens: the network, the store and what the listeners have been told stay
-- as they are, whatever the sources, the store and the listeners would have done.
theorem serveAll_unreadable (found : disk.look path = .file text) (filled : Text.trimmed text ≠ "")
    (foreign : ∀ doc, Json.parse? text = some doc → ¬ doc.IsLastRuns) (c : Collector σ) (inquiries : List Inquiry)
    (w : World σ) :
    let done := c.serveAll (.file path) inquiries w disk
    done.1 = inquiries.map (Inquiry.refused (.unparsable path)) ∧
      (done.2.2 = disk ∧ done.2.2.look path = .file text) ∧
      (done.2.1.network = w.network ∧ done.2.1.store = w.store ∧ done.2.1.journal.told = w.journal.told ∧
        done.2.1.rounds = w.rounds) ∧
      ∀ other : Collector σ, other.jobs.keys = c.jobs.keys → other.serveAll (.file path) inquiries w disk = done := by
  intro done
  have refuses : (History.file path).Refuses disk (.unparsable path) :=
    History.file_refuses (History.readFile_foreign found filled foreign)
  have served : done = _ := serveAll_refused refuses inquiries w
  rw [served]
  refine ⟨rfl, ⟨rfl, found⟩, ⟨rfl, rfl, Journal.told_addAll _ _, rfl⟩, fun other named => ?_⟩
  rw [serveAll_refused refuses, named]

-- One number that is no long refuses the whole document, also for the job that is written well.
theorem serveAll_unreadable_number :
    let text := "\x7b\"up\": \x7b\"run.id\": 3\x7d, \"other\": \x7b\"page\": 1.5\x7d\x7d"
    let disk : Disk := ⟨Keyed.empty.insert "runs.json" (.file text)⟩
    let up : Job := ⟨.constant .atcoder .scrape (.ok ⟨[], 0⟩), Keyed.empty⟩
    let c : Collector Shelf := ⟨Keyed.empty.insert "up" up, Shelf.sink, [.logging], .draft⟩
    let w := World.start Http.Network.offline Shelf.empty
    let inquiries : List Inquiry :=
      [.call (.last "up"), .call (.record "up" Keyed.empty), .order (.one "up" .epoch), .order (.all .epoch)]
    LastRuns.decode? text = none ∧ disk.look "runs.json" = .file text ∧
      (c.serveAll (.file "runs.json") inquiries w disk).1 = inquiries.map (Inquiry.refused (.unparsable "runs.json")) ∧
      (c.serveAll (.file "runs.json") inquiries w disk).2.2.look "runs.json" = .file text := by
  intro text disk up c w inquiries
  have undecoded : LastRuns.decode? text = none := by decide +kernel
  obtain ⟨filled, foreign⟩ := LastRuns.decode?_eq_none_iff.mp undecoded
  have found : disk.look "runs.json" = .file text := by decide +kernel
  obtain ⟨answered, ⟨_, kept⟩, _⟩ := serveAll_unreadable found filled foreign c inquiries w
  exact ⟨undecoded, found, answered, kept⟩

end Collector
end Harvester
