import Harvester.History
import Harvester.Run
import Harvester.Proofs.Text.Digits
namespace Harvester

theorem Long.next_value (n : Long) : n.next.value = min (n.value + 1) Int.maxLong := by
  have held := n.held
  unfold next
  split
  · simp only
    omega
  · omega

-- A sign and digits, so the last "#" of a job id is the one before its number.
theorem Long.text_plain (n : Long) : '#' ∉ n.text.toList := by
  intro present
  change '#' ∈ Json.intText n.value at present
  rcases Json.intText_cases n.value with ⟨k, _, shown⟩ | ⟨k, _, _, shown⟩
  · rw [shown] at present
    exact absurd (Text.isDigit_of_mem present) (by decide)
  · rw [shown] at present
    rcases List.mem_cons.mp present with sign | digit
    · cases sign
    · exact absurd (Text.isDigit_of_mem digit) (by decide)

theorem Long.text_injective {m n : Long} (same : m.text = n.text) : m = n := by
  have values : m.value = n.value := Json.intText_injective (congrArg String.toList same)
  cases m
  cases n
  cases values
  rfl

-- Both lists are cut at the last separator.
theorem cut_at_last {sep : α} {a b x y : List α} (left : sep ∉ x) (right : sep ∉ y)
    (same : a ++ sep :: x = b ++ sep :: y) : a = b ∧ x = y := by
  rcases List.append_eq_append_iff.mp same with ⟨c, longer, rest⟩ | ⟨c, longer, rest⟩
  · cases c with
    | nil =>
      cases rest
      exact ⟨by rw [longer, List.append_nil], rfl⟩
    | cons head tail =>
      cases rest
      exact absurd (List.mem_append_right tail List.mem_cons_self) left
  · cases c with
    | nil =>
      cases rest
      exact ⟨by rw [longer, List.append_nil], rfl⟩
    | cons head tail =>
      cases rest
      exact absurd (List.mem_append_right tail List.mem_cons_self) right

namespace Run

-- A job id names one run of one job, whatever stands in the name.
theorem jobId_injective {r s : Run} (same : r.jobId = s.jobId) : r.job = s.job ∧ r.id = s.id := by
  have chars := congrArg String.toList same
  simp only [jobId, String.toList_append, List.append_assoc] at chars
  obtain ⟨jobs, ids⟩ := cut_at_last r.id.text_plain s.id.text_plain chars
  exact ⟨String.toList_injective jobs, Long.text_injective (String.toList_injective ids)⟩

-- The id that is kept of a run is read back as it is, with and without a date.
theorem priorId_toParameters (run : Run) : priorId (some run.toParameters) = run.id := by
  have found : run.toParameters.get? runIdKey = some (.long run.id) := by
    unfold toParameters
    cases run.baseDate with
    | none => simp [Keyed.get?_insert]
    | some date => simp [Keyed.get?_insert, show baseDateKey ≠ runIdKey by decide]
  simp [priorId, Parameters.getLong?, found, Param.long?]

end Run

-- The number a job's last run is remembered by.
def LastRuns.lastId (runs : LastRuns) (job : String) : Int := (Run.priorId (runs.get? job)).value

theorem LastRuns.lastId_insert (runs : LastRuns) (run : Run) (job : String) :
    lastId (runs.insert run.job run.toParameters) job = if run.job = job then run.id.value else lastId runs job := by
  by_cases same : run.job = job
  · simp [lastId, Keyed.get?_insert, same, Run.priorId_toParameters]
  · simp [lastId, Keyed.get?_insert, same]

-- Runs launched one after the other, from one table of last runs to another: each is numbered by what the table holds
-- of its job, and is kept before the next one is launched.
inductive Succession : LastRuns → List Run → LastRuns → Prop
  | none (runs : LastRuns) : Succession runs [] runs
  | more {runs kept : LastRuns} {later : List Run} (run : Run)
      (numbered : run.id = (Run.priorId (runs.get? run.job)).next)
      (rest : Succession (runs.insert run.job run.toParameters) later kept) : Succession runs (run :: later) kept

namespace Succession

theorem append (first : Succession runs early between) (second : Succession between late kept) :
    Succession runs (early ++ late) kept := by
  induction first with
  | none => exact second
  | more run numbered _ ih => exact .more run numbered (ih second)

-- The ids of one job, in the order of its runs.
def idsOf (job : String) (launched : List Run) : List Int :=
  (launched.filter fun run => run.job == job).map fun run => run.id.value

-- The first id follows the remembered one, and from there on the table is one ahead.
theorem idsOf_get (succession : Succession runs launched kept) (job : String) {k : Nat} {number : Int}
    (nth : (idsOf job launched)[k]? = some number) : number = min (runs.lastId job + (k + 1)) Int.maxLong := by
  induction succession generalizing k with
  | none => cases nth
  | @more runs kept later run numbered _ ih =>
    have first : run.id.value = min (runs.lastId run.job + 1) Int.maxLong := by rw [numbered, Long.next_value]; rfl
    by_cases same : run.job = job
    · have ids : idsOf job (run :: later) = run.id.value :: idsOf job later := by simp [idsOf, same]
      rw [ids] at nth
      cases k with
      | zero =>
        cases nth
        rw [first, same]
        rfl
      | succ k =>
        have after := ih nth
        rw [LastRuns.lastId_insert, if_pos same, first, same] at after
        omega
    · have ids : idsOf job (run :: later) = idsOf job later := by simp [idsOf, same]
      rw [ids] at nth
      have after := ih nth
      rwa [LastRuns.lastId_insert, if_neg same] at after

-- Every later run of a job is numbered past the remembered id, as long as there are numbers past it.
theorem later_id (succession : Succession runs launched kept) (present : run ∈ launched) :
    min (runs.lastId run.job + 1) Int.maxLong ≤ run.id.value := by
  have member : run ∈ launched.filter fun other => other.job == run.job := by simp [present]
  obtain ⟨k, nth⟩ := List.mem_iff_getElem?.mp (List.mem_map_of_mem (f := fun run : Run => run.id.value) member)
  have number := succession.idsOf_get run.job nth
  omega

theorem jobIds_apart (succession : Succession runs launched kept) :
    launched.Pairwise fun r s => r.id.value < Int.maxLong → r.jobId ≠ s.jobId := by
  induction succession with
  | none => exact .nil
  | @more runs kept later run numbered rest ih =>
    refine .cons (fun other present below same => ?_) ih
    obtain ⟨job, id⟩ := Run.jobId_injective same
    have past := rest.later_id present
    rw [LastRuns.lastId_insert, if_pos job, ← id] at past
    omega

end Succession

end Harvester
