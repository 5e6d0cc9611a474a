import Harvester.Run
namespace Harvester.Run

-- A value is kept as it is, except that a date is a text from then on.
def keptValue (key : String) (value : Param) : Param := if key = baseDateKey then .text value.toText else value

theorem keptValue_date (value : Param) : keptValue baseDateKey value = .text value.toText := if_pos rfl

theorem keptValue_other (other : key ≠ baseDateKey) (value : Param) : keptValue key value = value := if_neg other

theorem keptValue_date_eq_iff (value : Param) : keptValue baseDateKey value = value ↔ ∀ n, value ≠ .long n := by
  rw [keptValue_date]
  cases value with
  | long n => exact iff_of_false nofun fun none_ => none_ n rfl
  | text s => exact iff_of_true rfl fun n => nofun

theorem map_keptValue_other (other : key ≠ baseDateKey) (given : Option Param) : given.map (keptValue key) = given := by
  cases given with
  | none => rfl
  | some value => rw [Option.map_some, keptValue_other other]

theorem toParameters_get? (run : Run) (key : String) :
    run.toParameters.get? key =
      if key = baseDateKey ∧ run.baseDate.isSome then run.baseDate.map .text
      else if key = runIdKey then some (.long run.id)
      else run.params.get? key := by
  unfold toParameters
  cases run.baseDate with
  | none => simp [Keyed.get?_insert, eq_comm]
  | some date =>
    by_cases dated : key = baseDateKey
    · simp [Keyed.get?_insert, dated]
    · simp [Keyed.get?_insert, dated, Ne.symm dated, eq_comm]

theorem following_get? (job : String) (prior : Option Parameters) (supplied : Parameters) (key : String) :
    (following job prior supplied).toParameters.get? key =
      if key = runIdKey then some (.long (priorId prior).next) else (supplied.get? key).map (keptValue key) := by
  have apart : baseDateKey ≠ runIdKey := by decide
  rw [toParameters_get?]
  by_cases dated : key = baseDateKey
  · subst dated
    cases given : supplied.get? baseDateKey with
    | none => simp [following, Parameters.getText?, Keyed.get?_filter, given, apart]
    | some date => simp [following, Parameters.getText?, keptValue_date, given, apart]
  · rw [map_keptValue_other dated]
    by_cases numbered : key = runIdKey
    · simp [following, numbered, Ne.symm apart]
    · simp [following, Keyed.get?_filter, dated, numbered]

-- What is kept of a run for the next one is its id, whatever id it was supplied with, and every other name it was supplied
-- with, under the same value of the same kind. Only a date that is a number becomes a text.
theorem following_kept (job : String) (prior : Option Parameters) (supplied : Parameters) :
    let run := following job prior supplied
    let kept := run.toParameters
    (∀ key, key ∈ kept.keys ↔ key ∈ supplied.keys ∨ key = runIdKey) ∧
      run.id = (priorId prior).next ∧ kept.get? runIdKey = some (.long run.id) ∧
      (∀ key, key ≠ runIdKey → key ≠ baseDateKey → kept.get? key = supplied.get? key) ∧
      kept.get? baseDateKey = (supplied.get? baseDateKey).map (fun date => .text date.toText) ∧
      (kept.get? baseDateKey = supplied.get? baseDateKey ↔ ∀ n, supplied.get? baseDateKey ≠ some (.long n)) := by
  intro run kept
  have found (key : String) : kept.get? key = _ := following_get? job prior supplied key
  have date : kept.get? baseDateKey = (supplied.get? baseDateKey).map (keptValue baseDateKey) := by
    rw [found, if_neg (by decide)]
  refine ⟨fun key => ?_, rfl, ?_, fun key numbered dated => ?_, date, ?_⟩
  · rw [Keyed.mem_keys_iff, Keyed.mem_keys_iff, found]
    by_cases numbered : key = runIdKey
    · simp [numbered]
    · simp [numbered]
  · rw [found, if_pos rfl]
    rfl
  · rw [found, if_neg numbered, map_keptValue_other dated]
  · rw [date]
    cases supplied.get? baseDateKey with
    | none => simp
    | some value => simp [keptValue_date_eq_iff]

-- An id among the supplied parameters, a date that is a text, and texts of digits.
theorem following_kept_digits :
    let prior : Parameters := Keyed.ofList [("run.id", .text " 41 "), ("page", .long ⟨1, by decide⟩)]
    let supplied : Parameters := Keyed.ofList [("run.id", .long ⟨7, by decide⟩), ("baseDate", .text "20250101"),
      ("cursor", .text "42"), ("page", .long ⟨3, by decide⟩)]
    let kept := (following "a" (some prior) supplied).toParameters
    kept.keys = ["baseDate", "cursor", "page", "run.id"] ∧
      (∀ key, key ∈ kept.keys ↔ key ∈ supplied.keys ∨ key = runIdKey) ∧
      kept.get? "run.id" = some (.long ⟨42, by decide⟩) ∧ kept.get? "cursor" = some (.text "42") ∧
      kept.get? "page" = some (.long ⟨3, by decide⟩) ∧ kept.get? "baseDate" = some (.text "20250101") := by
  intro prior supplied kept
  obtain ⟨names, numbered, id, other, _, date⟩ := following_kept "a" (some prior) supplied
  refine ⟨by decide +kernel, names, id.trans ?_, ?_, ?_, ?_⟩
  · rw [numbered]
    decide +kernel
  · exact (other "cursor" (by decide) (by decide)).trans (by decide +kernel)
  · exact (other "page" (by decide) (by decide)).trans (by decide +kernel)
  · have given : supplied.get? baseDateKey = some (.text "20250101") := by decide +kernel
    refine (date.mpr fun n => ?_).trans given
    rw [given]
    exact nofun

theorem following_dated_number :
    let day : Long := ⟨20250101, by decide⟩
    let supplied : Parameters := Keyed.ofList [("baseDate", .long day)]
    supplied.get? "baseDate" = some (.long day) ∧
      (following "a" none supplied).toParameters.get? "baseDate" = some (.text "20250101") := by
  decide +kernel

end Harvester.Run
