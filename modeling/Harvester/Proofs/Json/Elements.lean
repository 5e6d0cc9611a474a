import Harvester.Json.Field
import Mathlib.Data.List.Forall2
namespace Harvester

-- A list is read when every element is read, and then element by element, in order.
theorem mapM_eq_some_iff {read : α → Option β} {xs : List α} {ys : List β} :
    xs.mapM read = some ys ↔ List.Forall₂ (fun x y => read x = some y) xs ys := by
  induction xs generalizing ys with
  | nil =>
    rw [List.mapM_nil, List.forall₂_nil_left_iff]
    exact ⟨fun same => (Option.some.inj same).symm, fun same => congrArg some same.symm⟩
  | cons x rest ih =>
    rw [List.mapM_cons, List.forall₂_cons_left_iff]
    constructor
    · intro brought
      obtain ⟨y, first, later⟩ := Option.bind_eq_some_iff.mp brought
      obtain ⟨others, brought, same⟩ := Option.bind_eq_some_iff.mp later
      exact ⟨y, others, first, ih.mp brought, (Option.some.inj same).symm⟩
    · rintro ⟨y, others, first, later, rfl⟩
      simp [first, ih.mpr later]

theorem mapM_wrapped (read : α → Option β) (wrap : β → γ) (xs : List α) :
    (xs.mapM fun x => (read x).map wrap) = (xs.mapM read).map (List.map wrap) := by
  induction xs with
  | nil => rfl
  | cons x rest ih =>
    simp only [List.mapM_cons, ih]
    cases read x with
    | none => rfl
    | some y => cases rest.mapM read <;> rfl

-- A list that may be missing stands for none of its elements.
theorem located_wrapped (read : α → Option β) (wrap : β → γ) (located : Option (List α)) :
    ((located.mapM fun xs : List α => xs.mapM read).bind fun ys => some ((ys.getD []).map wrap)) =
      (located.getD []).mapM fun x => (read x).map wrap := by
  cases located with
  | none => rfl
  | some xs =>
    rw [Option.mapM_some, Option.getD_some, mapM_wrapped]
    cases xs.mapM read <;> rfl

namespace Json

-- Reading in two steps: what is to be read is located first, and then read.
theorem listOf?_through (read : Json → Option α) (doc : Json) :
    listOf? read doc = (listOf? some doc).bind fun elements => elements.mapM read := by
  cases doc with
  | arr items =>
    have plain : items.mapM some = some items := mapM_eq_some_iff.mpr (List.forall₂_same.mpr fun _ _ => rfl)
    simp only [listOf?, plain, Option.bind_some]
  | _ => rfl

variable {read : Json → Option β} {locate : Json → Option α} {next : α → Option β}

theorem optional_through (through : ∀ doc, read doc = (locate doc).bind next) (v : Option Json) :
    optional read v = (optional locate v).bind (Option.mapM next) := by
  have given (doc : Json) : (read doc).map some = ((locate doc).map some).bind (Option.mapM next) := by
    rw [through]
    cases locate doc <;> rfl
  rcases v with _ | doc
  · rfl
  · cases doc with
    | null => rfl
    | _ => exact given _

theorem defaulted_through {fallback : β} {start : α} (through : ∀ doc, read doc = (locate doc).bind next)
    (same : next start = some fallback) (v : Option Json) :
    defaulted fallback read v = (defaulted start locate v).bind next := by
  cases v with
  | none => exact same.symm
  | some doc => exact through doc

end Json

end Harvester
