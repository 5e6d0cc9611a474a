import Harvester.Proofs.Xml.Children
import Harvester.Proofs.Xml.Elements
namespace Harvester.Xml

variable {record : Record} {label : String} {read : Child → Option α} {before behind kids : List Child}
  {child : Child} {attributes : List (List Char × List Char)} {values : List α}

theorem Record.once?_eq_some_iff {value : Option α} : record.once? label read = some value ↔
    List.Forall₂ (fun child x => read child = some x) (record.children.filter fun child => child.isNamed label)
      value.toList := by
  refine ⟨fun brought => ?_, once?_of_each⟩
  unfold once? at brought
  split at brought
  · rename_i listed
    cases brought
    rw [listed]
    exact .nil
  · rename_i child listed
    obtain ⟨x, shown, rfl⟩ := Option.map_eq_some_iff.mp brought
    rw [listed]
    exact .cons shown .nil
  · cases brought

theorem Record.many?_eq_some_iff : record.many? label read = some values ↔
    (∃ full, ∀ child ∈ record.children.filter (fun child => child.isNamed label), child.name = full) ∧
      List.Forall₂ (fun child x => read child = some x) (record.children.filter fun child => child.isNamed label)
        values := by
  constructor
  · intro brought
    unfold many? at brought
    split at brought
    · rename_i listed
      cases brought
      rw [listed]
      exact ⟨⟨[], List.forall_mem_nil _⟩, .nil⟩
    · rename_i first rest listed
      split at brought
      · rename_i alike
        rw [listed]
        refine ⟨⟨first.name, List.forall_mem_cons.mpr ⟨rfl, fun child present => ?_⟩⟩, mapM_eq_some_iff.mp brought⟩
        exact of_decide_eq_true (List.all_eq_true.mp alike child present)
      · cases brought
  · rintro ⟨⟨full, alike⟩, each⟩
    exact many?_of_each ((List.forall₂_and_left _ _).mpr ⟨alike, each⟩)

theorem forall₂_middle {R : β → γ → Prop} {front back : List β} {middle : β} {ys : List γ}
    (related : List.Forall₂ R (front ++ middle :: back) ys) : ∃ before y behind, ys = before ++ y :: behind ∧
      List.Forall₂ R front before ∧ R middle y ∧ List.Forall₂ R back behind := by
  induction front generalizing ys with
  | nil =>
    obtain ⟨y, behind, here, later, rfl⟩ := List.forall₂_cons_left_iff.mp related
    exact ⟨[], y, behind, rfl, .nil, here, later⟩
  | cons x front ih =>
    obtain ⟨first, others, here, later, rfl⟩ := List.forall₂_cons_left_iff.mp related
    obtain ⟨before, y, behind, rfl, frontToo, there, backToo⟩ := ih later
    exact ⟨first :: before, y, behind, rfl, .cons here frontToo, there, backToo⟩

theorem filter_middle (named : child.isNamed label = true) (before behind : List Child) :
    (before ++ child :: behind).filter (fun child => child.isNamed label) =
      before.filter (fun child => child.isNamed label) ++ child :: behind.filter fun child => child.isNamed label := by
  rw [List.filter_append, List.filter_cons, if_pos named]

-- Where one element of a list is changed and keeps its name, the list is read as before but for that element.
theorem Record.many?_swap (brought : Record.many? ⟨attributes, before ++ child :: behind⟩ label read = some values)
    (named : child.isNamed label = true) :
    ∃ earlier value later, values = earlier ++ value :: later ∧ read child = some value ∧
      ∀ other : Child, other.name = child.name → Record.many? ⟨attributes, before ++ other :: behind⟩ label read =
        (read other).map fun value => earlier ++ value :: later := by
  obtain ⟨⟨full, alike⟩, each⟩ := many?_eq_some_iff.mp brought
  simp only [filter_middle named] at alike each
  obtain ⟨earlier, value, later, rfl, front, here, back⟩ := forall₂_middle each
  refine ⟨earlier, value, later, rfl, here, fun other same => ?_⟩
  have namedToo : other.isNamed label = true := by
    rw [Child.isNamed, same]
    exact named
  cases shown : read other with
  | some found =>
    refine many?_eq_some_iff.mpr ⟨⟨full, ?_⟩, ?_⟩
    · simp only [filter_middle namedToo]
      intro kid present
      rcases List.mem_append.mp present with early | rest
      · exact alike kid (List.mem_append_left _ early)
      · rcases List.mem_cons.mp rest with rfl | late
        · rw [same]
          exact alike child (List.mem_append_right _ List.mem_cons_self)
        · exact alike kid (List.mem_append_right _ (List.mem_cons_of_mem _ late))
    · simp only [filter_middle namedToo]
      exact List.rel_append front (.cons shown back)
  | none =>
    cases broughtToo : Record.many? ⟨attributes, before ++ other :: behind⟩ label read with
    | none => rfl
    | some others =>
      have eachToo := (many?_eq_some_iff.mp broughtToo).2
      simp only [filter_middle namedToo] at eachToo
      obtain ⟨_, _, _, _, _, there, _⟩ := forall₂_middle eachToo
      rw [shown] at there
      cases there

-- An element that stands once is the one that is read.
theorem Record.once?_swap {value : α}
    (brought : Record.once? ⟨attributes, before ++ child :: behind⟩ label read = some (some value))
    (named : child.isNamed label = true) : read child = some value ∧
      ∀ other : Child, other.name = child.name →
        Record.once? ⟨attributes, before ++ other :: behind⟩ label read = (read other).map some := by
  have each := once?_eq_some_iff.mp brought
  simp only [filter_middle named] at each
  obtain ⟨earlier, found, later, listed, front, here, back⟩ := forall₂_middle each
  obtain ⟨rfl, rfl, rfl⟩ : earlier = [] ∧ value = found ∧ later = [] := by
    cases earlier with
    | nil => simpa using listed
    | cons first earlier => simp at listed
  refine ⟨here, fun other same => ?_⟩
  have namedToo : other.isNamed label = true := by
    rw [Child.isNamed, same]
    exact named
  simp only [once?, filter_middle namedToo, List.forall₂_nil_right_iff.mp front, List.forall₂_nil_right_iff.mp back,
    List.nil_append]

end Harvester.Xml
