import Harvester.Proofs.History.Document
import Harvester.Proofs.History.Folders
namespace Harvester

inductive HistoryCall
  | last (job : String)
  | record (job : String) (params : Parameters)
deriving Repr, DecidableEq

inductive HistoryAnswer
  | found (params : Option Parameters)
  | recorded
  | refused (fault : HistoryFault)
deriving Repr, DecidableEq

namespace History

variable {η : Type} {history : History η} {stands : η → LastRuns → Prop} {past : η} {runs : LastRuns}

def answer (history : History η) (past : η) : HistoryCall → HistoryAnswer × η
  | .last job =>
    match history.last job past with
    | .ok params => (.found params, past)
    | .error fault => (.refused fault, past)
  | .record job params =>
    match history.record job params past with
    | (.ok (), present) => (.recorded, present)
    | (.error fault, present) => (.refused fault, present)

def answers (history : History η) : List HistoryCall → η → List HistoryAnswer × η
  | [], past => ([], past)
  | call :: rest, past =>
    let (first, present) := history.answer past call
    let (others, final) := history.answers rest present
    (first :: others, final)

-- Every state that stands for a table of last runs answers like the table, and a record leaves a state that stands for
-- the table with the new entry.
structure Mirrors (history : History η) (stands : η → LastRuns → Prop) : Prop where
  last : ∀ {past runs}, stands past runs → ∀ job, history.last job past = .ok (runs.get? job)
  record : ∀ {past runs}, stands past runs → ∀ job params,
    ∃ present, history.record job params past = (.ok (), present) ∧ stands present (runs.insert job params)

theorem memory_mirrors : memory.Mirrors Eq := by
  refine ⟨?_, ?_⟩
  · rintro runs _ rfl job
    rfl
  · rintro runs _ rfl job params
    exact ⟨runs.insert job params, rfl, rfl⟩

theorem Mirrors.answer (mirrors : history.Mirrors stands) (same : stands past runs) (call : HistoryCall) :
    (history.answer past call).1 = (memory.answer runs call).1 ∧
      stands (history.answer past call).2 (memory.answer runs call).2 := by
  cases call with
  | last job =>
    simp only [History.answer, mirrors.last same job]
    exact ⟨rfl, same⟩
  | record job params =>
    obtain ⟨present, recorded, after⟩ := mirrors.record same job params
    simp only [History.answer, recorded]
    exact ⟨rfl, after⟩

theorem Mirrors.answers (mirrors : history.Mirrors stands) (same : stands past runs) (calls : List HistoryCall) :
    (history.answers calls past).1 = (memory.answers calls runs).1 ∧
      stands (history.answers calls past).2 (memory.answers calls runs).2 := by
  induction calls generalizing past runs with
  | nil => exact ⟨rfl, same⟩
  | cons call rest ih =>
    obtain ⟨first, after⟩ := mirrors.answer same call
    obtain ⟨others, final⟩ := ih after
    exact ⟨congr (congrArg List.cons first) others, final⟩

theorem memory_answers (calls : List HistoryCall) (runs : LastRuns) (fault : HistoryFault) :
    HistoryAnswer.refused fault ∉ (memory.answers calls runs).1 := by
  induction calls generalizing runs with
  | nil => exact List.not_mem_nil
  | cons call rest ih =>
    intro present
    rcases List.mem_cons.mp present with here | later
    · cases call <;> cases here
    · exact ih _ later

-- The file at the path reads as the table, be it missing, blank or a document.
structure Holds (path : String) (disk : Disk) (runs : LastRuns) : Prop where
  named : path ≠ ""
  read : readFile path disk = .ok runs

theorem Holds.open_ (holds : Holds path disk runs) : disk.Open path := by
  apply Disk.open_of_look holds.named
  have read := holds.read
  cases found : disk.look path with
  | file text => exact .inr ⟨text, rfl⟩
  | folder => simp [readFile, found] at read
  | missing => exact .inl rfl
  | blocked => simp [readFile, found] at read

-- A whole history is written over whatever was there, and reads back.
theorem writeFile_holds (open_ : Disk.Open disk path) (runs : LastRuns) :
    ∃ written, writeFile path runs disk = (.ok (), written) ∧ Holds path written runs := by
  obtain ⟨ready, prepared, folders, kept⟩ := open_.createFolders
  have readyOpen : ready.Open path := by
    refine ⟨open_.named, fun folder member => ?_, by rw [kept]; exact open_.noFolder⟩
    simp [Disk.blocks, folders folder member]
  obtain ⟨written, wrote, look⟩ := Disk.write_look readyOpen folders runs.encode
  refine ⟨written, by simp [writeFile, prepared, wrote], Disk.ne_empty_of_named open_.named, ?_⟩
  simp [readFile, look, runs.decode_encode]

theorem file_mirrors (path : String) : (file path).Mirrors (Holds path) := by
  refine ⟨?_, ?_⟩
  · intro disk runs holds job
    simp [file, holds.read, Except.map]
  · intro disk runs holds job params
    obtain ⟨written, wrote, after⟩ := writeFile_holds holds.open_ (runs.insert job params)
    exact ⟨written, by simp [file, holds.read, wrote], after⟩

-- How the file of a history may stand before the first call, and the table it begins with.
inductive FileStart (path : String) (disk : Disk) : LastRuns → Prop
  | missing (nothing : disk.look path = .missing) : FileStart path disk Keyed.empty
  | blank (found : disk.look path = .file text) (blanks : Text.trimmed text = "") : FileStart path disk Keyed.empty
  | kept (table : LastRuns) (found : disk.look path = .file table.encode) : FileStart path disk table

theorem FileStart.holds (start : FileStart path disk runs) (named : path ≠ "") : Holds path disk runs := by
  refine ⟨named, ?_⟩
  cases start with
  | missing nothing => simp [readFile, nothing]
  | blank found blanks => simp [readFile, found, LastRuns.decode?, blanks]
  | kept table found => simp [readFile, found, LastRuns.decode_encode]

-- Another spelling of the path is the same file.
theorem Holds.respelled (holds : Holds path disk runs) (same : Disk.parts again = Disk.parts path) :
    Holds again disk runs := by
  have named : Disk.parts again ≠ [] := by rw [same]; exact holds.open_.named
  have look : disk.look again = disk.look path := by
    simp only [Disk.look, Disk.ne_empty_of_named named, holds.named, same]
  refine ⟨Disk.ne_empty_of_named named, ?_⟩
  have read := holds.read
  cases found : disk.look path with
  | file text =>
    simp only [readFile, look, found] at read ⊢
    cases decoded : LastRuns.decode? text with
    | none => simp [decoded] at read
    | some runs => simpa [decoded] using read
  | folder => simp [readFile, found] at read
  | missing => simpa [readFile, look, found] using read
  | blocked => simp [readFile, found] at read

-- Kept in a file, a history answers every sequence of calls as one in memory does and refuses none of them. Whatever
-- has been recorded since, the next record is read back as it was given and is nothing to the other jobs, and a history
-- opened anew on the file goes on with the same answers.
theorem file_answers_as_memory (named : path ≠ "") (start : FileStart path disk runs) (calls : List HistoryCall) :
    let past := ((file path).answers calls disk).2
    let kept := (memory.answers calls runs).2
    ((file path).answers calls disk).1 = (memory.answers calls runs).1 ∧
      (∀ fault, .refused fault ∉ ((file path).answers calls disk).1) ∧
      (∀ job params, ∃ present, (file path).record job params past = (.ok (), present) ∧
        (file path).last job present = .ok (some params) ∧
        ∀ other, other ≠ job → (file path).last other present = (file path).last other past) ∧
      ∀ again, Disk.parts again = Disk.parts path → ∀ more,
        ((file again).answers more past).1 = (memory.answers more kept).1 := by
  intro past kept
  obtain ⟨same, holds⟩ := (file_mirrors path).answers (start.holds named) calls
  refine ⟨same, fun fault refused => memory_answers calls runs fault (same ▸ refused), ?_, ?_⟩
  · intro job params
    obtain ⟨present, recorded, after⟩ := (file_mirrors path).record holds job params
    refine ⟨present, recorded, ?_, fun other apart => ?_⟩
    · rw [(file_mirrors path).last after, Keyed.get?_insert, if_pos rfl]
    · rw [(file_mirrors path).last after, (file_mirrors path).last holds, Keyed.get?_insert, if_neg (Ne.symm apart)]
  · intro again spelled more
    exact ((file_mirrors again).answers (holds.respelled spelled) more).1

-- No folder and no file yet; a text of digits stays a text, the smallest long stays a long.
theorem file_answers_as_memory_fresh :
    Disk.empty.look "state/runs.json" = .missing ∧
      ((file "state/runs.json").answers
        [.record "a\"\\#" (Keyed.ofList [("cursor", .text "42"), ("run.id", .long ⟨Int.minLong, by decide⟩)]),
          .last "a\"\\#", .last "b"] Disk.empty).1 =
        [.recorded,
          .found (some (Keyed.ofList [("cursor", .text "42"), ("run.id", .long ⟨Int.minLong, by decide⟩)])),
          .found none] := by
  have nothing : Disk.empty.look "state/runs.json" = .missing := by decide
  refine ⟨nothing, ?_⟩
  rw [(file_answers_as_memory (by decide) (.missing nothing) _).1]
  decide

end History

end Harvester
