import Harvester.History
import Harvester.Proofs.Json.Written
namespace Harvester

-- The document of a table reads back as the table when its values do.
theorem members_back {read : Json → Option α} {write : α → Json} (back : ∀ a, read (write a) = some a)
    (table : Keyed α) :
    ((table.entries.map fun entry => (entry.1, write entry.2)).mapM
      fun (field : String × Json) => (read field.2).map fun value => (field.1, value)).map Keyed.ofList = some table := by
  have members : ∀ entries : List (String × α), (entries.map fun entry => (entry.1, write entry.2)).mapM
      (fun (field : String × Json) => (read field.2).map fun value => (field.1, value)) = some entries := by
    intro entries
    induction entries with
    | nil => rfl
    | cons entry rest ih => simp [back, ih]
  rw [members table.entries, Option.map_some, Keyed.ofList_entries]

theorem members_exact {write : α → Json} (each : ∀ a, (write a).IsExact) (entries : List (String × α)) :
    Json.IsExact (.obj (entries.map fun entry => (entry.1, write entry.2))) := by
  induction entries with
  | nil => rfl
  | cons entry rest ih =>
    have first := each entry.2
    simp only [Json.IsExact, Json.holds] at first ih ⊢
    simp [Json.holdsFields, first, ih]

theorem Long.ofInt?_value (n : Long) : Long.ofInt? n.value = some n := by
  simp [Long.ofInt?, n.held]

theorem Param.ofJson?_toJson (p : Param) : Param.ofJson? p.toJson = some p := by
  cases p with
  | long n => simp [Param.toJson, Param.ofJson?, Long.ofInt?_value]
  | text s => rfl

theorem Param.toJson_exact (p : Param) : p.toJson.IsExact := by
  cases p <;> rfl

theorem Parameters.ofJson?_toJson (p : Parameters) : Parameters.ofJson? p.toJson = some p :=
  members_back Param.ofJson?_toJson p

theorem Parameters.toJson_exact (p : Parameters) : (Parameters.toJson p).IsExact :=
  members_exact Param.toJson_exact p.entries

namespace LastRuns

theorem ofJson?_toJson (runs : LastRuns) : ofJson? runs.toJson = some runs :=
  members_back Parameters.ofJson?_toJson runs

theorem toJson_exact (runs : LastRuns) : runs.toJson.IsExact :=
  members_exact Parameters.toJson_exact runs.entries

-- The text of a history begins with a brace, so it is not blank.
theorem encode_not_blank (runs : LastRuns) : Text.trimmed runs.encode ≠ "" := by
  have shown : ∃ more, runs.encode.toList = '{' :: (more ++ ['}']) := by
    unfold encode toJson Json.toPrettyText
    cases runs.entries.map fun entry => (entry.1, Parameters.toJson entry.2) with
    | nil => exact ⟨[], by simp [Json.layout]⟩
    | cons field rest => exact ⟨Json.layoutFields 1 (field :: rest) ++ Json.newline 0, by simp [Json.layout]⟩
  obtain ⟨more, shown⟩ := shown
  have opening : Text.isBlank '{' = false := by decide
  have closing : Text.isBlank '}' = false := by decide
  simp [Text.trimmed, Text.trim, Text.trimStart, Text.trimEnd, shown, opening, closing]

theorem decode_encode (runs : LastRuns) : decode? runs.encode = some runs := by
  have read : Json.parse? runs.encode = some runs.toJson := (Json.document_toPrettyText runs.toJson_exact).parse
  rw [decode?, if_neg runs.encode_not_blank, read, Option.bind_some, ofJson?_toJson]

end LastRuns

end Harvester
