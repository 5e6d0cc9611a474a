import Harvester.Proofs.History.Mirror
namespace Harvester

namespace Json

inductive IsParam : Json → Prop
  | long (held : Int.minLong ≤ n ∧ n ≤ Int.maxLong) : IsParam (.int n)
  | text (s : String) : IsParam (.str s)

-- An object all of whose members are of one kind.
inductive IsObjectOf (each : Json → Prop) : Json → Prop
  | obj (members : ∀ field ∈ fields, each field.2) : IsObjectOf each (.obj fields)

-- What a history may be written as: an object of objects of texts and longs.
def IsLastRuns (doc : Json) : Prop := doc.IsObjectOf (IsObjectOf IsParam)

theorem isObjectOf_obj {each : Json → Prop} : IsObjectOf each (.obj fields) ↔ ∀ field ∈ fields, each field.2 := by
  constructor
  · intro object
    cases object with
    | obj members => exact members
  · exact .obj

end Json

-- One member that cannot be read is enough to refuse the whole object.
theorem members_isSome {read : Json → Option α} {each : Json → Prop} (reads : ∀ doc, (read doc).isSome ↔ each doc)
    (fields : List (String × Json)) :
    ((fields.mapM fun (field : String × Json) => (read field.2).map fun value => (field.1, value)).map
      Keyed.ofList).isSome ↔ ∀ field ∈ fields, each field.2 := by
  rw [Option.isSome_map]
  induction fields with
  | nil => simp
  | cons field rest ih =>
    rw [List.mapM_cons, List.forall_mem_cons, ← ih, ← reads]
    cases read field.2 with
    | none => simp
    | some value =>
      cases rest.mapM fun (field : String × Json) => (read field.2).map fun value => (field.1, value) <;> simp

theorem Param.ofJson?_isSome (doc : Json) : (Param.ofJson? doc).isSome ↔ doc.IsParam := by
  cases doc with
  | int n =>
    by_cases held : Int.minLong ≤ n ∧ n ≤ Int.maxLong
    · simp [Param.ofJson?, Long.ofInt?, held, Json.IsParam.long held]
    · have foreign : ¬ Json.IsParam (.int n) := by
        intro param
        cases param with
        | long inside => exact held inside
      simp [Param.ofJson?, Long.ofInt?, held, foreign]
  | str s => exact ⟨fun _ => .text s, fun _ => rfl⟩
  | null | bool | decimal | unpaired | arr | obj =>
    constructor
    · intro read
      cases read
    · intro param
      cases param

theorem Parameters.ofJson?_isSome (doc : Json) :
    (Parameters.ofJson? doc).isSome ↔ doc.IsObjectOf Json.IsParam := by
  cases doc with
  | obj fields => exact (members_isSome Param.ofJson?_isSome fields).trans Json.isObjectOf_obj.symm
  | null | bool | int | decimal | str | unpaired | arr => exact ⟨nofun, nofun⟩

namespace LastRuns

theorem ofJson?_isSome (doc : Json) : (ofJson? doc).isSome ↔ doc.IsLastRuns := by
  cases doc with
  | obj fields => exact (members_isSome Parameters.ofJson?_isSome fields).trans Json.isObjectOf_obj.symm
  | null | bool | int | decimal | str | unpaired | arr => exact ⟨nofun, nofun⟩

theorem decode?_eq_none_iff {text : String} :
    decode? text = none ↔ Text.trimmed text ≠ "" ∧ ∀ doc, Json.parse? text = some doc → ¬ doc.IsLastRuns := by
  rw [decode?]
  by_cases blank : Text.trimmed text = ""
  · simp [blank]
  · rw [if_neg blank]
    cases parsed : Json.parse? text with
    | none => simp [blank]
    | some doc =>
      have reads := ofJson?_isSome doc
      rw [Option.isSome_iff_ne_none] at reads
      simp [blank, ← reads]

end LastRuns

namespace History

variable {η : Type}

-- In this state every call is answered by one fault and changes nothing.
structure Refuses (history : History η) (past : η) (fault : HistoryFault) : Prop where
  last : ∀ job, history.last job past = .error fault
  record : ∀ job params, history.record job params past = (.error fault, past)

theorem Refuses.answer {history : History η} (refuses : history.Refuses past fault) (call : HistoryCall) :
    history.answer past call = (.refused fault, past) := by
  cases call with
  | last job => rw [History.answer, refuses.last]
  | record job params => rw [History.answer, refuses.record]

-- A file is read before it is written, so one that cannot be read is not written either.
theorem file_refuses (unread : readFile path disk = .error fault) : (file path).Refuses disk fault := by
  refine ⟨fun job => ?_, fun job params => ?_⟩
  · simp only [file, unread, Except.map]
  · simp only [file, unread]

theorem readFile_foreign (found : disk.look path = .file text) (filled : Text.trimmed text ≠ "")
    (foreign : ∀ doc, Json.parse? text = some doc → ¬ doc.IsLastRuns) :
    readFile path disk = .error (.unparsable path) := by
  rw [readFile, found]
  simp only [LastRuns.decode?_eq_none_iff.mpr ⟨filled, foreign⟩]

end History

end Harvester
