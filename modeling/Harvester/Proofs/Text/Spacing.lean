import Mathlib.Data.List.DropRight
import Harvester.Proofs.Text.Tags
namespace Harvester.Text

variable {c : Char} {cs rest part : List Char}

-- Every blank is a space that stands alone.
structure Spaced (cs : List Char) : Prop where
  spaces : ∀ c ∈ cs, isBlank c = true → c = ' '
  single : ¬ [' ', ' '] <:+: cs

def ClearStart (cs : List Char) : Prop := ∀ c, cs.head? = some c → isBlank c = false

def ClearEnd (cs : List Char) : Prop := ∀ c, cs.getLast? = some c → isBlank c = false

theorem Spaced.within (spaced : Spaced cs) (inside : part <:+: cs) : Spaced part :=
  ⟨fun c present => spaced.spaces c (inside.mem present), fun found => spaced.single (found.trans inside)⟩

theorem spaced_nil : Spaced [] := by
  refine ⟨fun c present => absurd present List.not_mem_nil, ?_⟩
  intro found
  cases List.infix_nil.mp found

theorem spaced_cons : Spaced (c :: rest) ↔
    (isBlank c = true → c = ' ') ∧ ¬ (c = ' ' ∧ rest.head? = some ' ') ∧ Spaced rest := by
  constructor
  · intro spaced
    refine ⟨spaced.spaces c List.mem_cons_self, ?_, spaced.within (List.suffix_cons c rest).isInfix⟩
    rintro ⟨rfl, next⟩
    obtain ⟨others, rfl⟩ := List.head?_eq_some_iff.mp next
    exact spaced.single ⟨[], others, rfl⟩
  · rintro ⟨space, apart, spaced⟩
    constructor
    · intro d present blank
      rcases List.mem_cons.mp present with rfl | later
      · exact space blank
      · exact spaced.spaces d later blank
    · intro found
      rcases List.infix_cons_iff.mp found with here | later
      · obtain ⟨same, others, rfl⟩ := List.cons_prefix_cons.mp here
        exact apart ⟨same.symm, rfl⟩
      · exact spaced.single later

-- Of a spaced text only a space has to be looked for.
theorem Spaced.clearEnd_iff (spaced : Spaced cs) : ClearEnd cs ↔ cs.getLast? ≠ some ' ' := by
  constructor
  · intro clear last
    cases clear ' ' last
  · intro noSpace c last
    cases blank : isBlank c with
    | false => rfl
    | true =>
      have space := spaced.spaces c (List.mem_of_getLast? last) blank
      rw [space] at last
      exact absurd last noSpace

-- What becomes of the first character: a blank before a blank goes, another blank becomes a space, all else stays.
theorem collapse_cases (c : Char) (rest : List Char) :
    (isBlank c = true ∧ (∃ d others, rest = d :: others ∧ isBlank d = true) ∧ collapse (c :: rest) = collapse rest) ∨
      (isBlank c = true ∧ ClearStart rest ∧ collapse (c :: rest) = ' ' :: collapse rest) ∨
      (isBlank c = false ∧ collapse (c :: rest) = c :: collapse rest) := by
  cases blank : isBlank c with
  | false =>
    refine .inr (.inr ⟨rfl, ?_⟩)
    cases rest <;> simp [collapse, blank]
  | true =>
    cases rest with
    | nil =>
      refine .inr (.inl ⟨rfl, ?_, by simp [collapse, blank]⟩)
      intro d next
      cases next
    | cons d others =>
      cases next : isBlank d with
      | true => exact .inl ⟨rfl, ⟨d, others, rfl, next⟩, by simp [collapse, blank, next]⟩
      | false =>
        refine .inr (.inl ⟨rfl, ?_, by simp [collapse, blank, next]⟩)
        intro e first
        cases Option.some.inj first
        exact next

theorem mem_collapse (visible : isBlank c = false) (cs : List Char) : c ∈ collapse cs ↔ c ∈ cs := by
  have other {d : Char} (blank : isBlank d = true) : c ≠ d := by
    rintro rfl
    rw [blank] at visible
    cases visible
  induction cs with
  | nil => exact Iff.rfl
  | cons d rest ih =>
    rcases collapse_cases d rest with ⟨blank, _, shown⟩ | ⟨blank, _, shown⟩ | ⟨_, shown⟩
    · rw [shown, List.mem_cons, or_iff_right (other blank)]
      exact ih
    · rw [shown, List.mem_cons, List.mem_cons, or_iff_right (other blank),
        or_iff_right (other (show isBlank ' ' = true from rfl))]
      exact ih
    · rw [shown, List.mem_cons, List.mem_cons]
      exact or_congr_right ih

-- A blank at the start stays there as a space, anything else as it is.
theorem collapse_head? (cs : List Char) :
    (collapse cs).head? = cs.head?.map fun c => if isBlank c then ' ' else c := by
  induction cs with
  | nil => rfl
  | cons c rest ih =>
    rcases collapse_cases c rest with ⟨blank, ⟨d, others, rfl, next⟩, shown⟩ | ⟨blank, _, shown⟩ | ⟨visible, shown⟩
    · rw [shown, ih]
      simp [blank, next]
    · rw [shown]
      simp [blank]
    · rw [shown]
      simp [visible]

theorem collapse_spaced (cs : List Char) : Spaced (collapse cs) := by
  induction cs with
  | nil => exact spaced_nil
  | cons c rest ih =>
    rcases collapse_cases c rest with ⟨_, _, shown⟩ | ⟨_, clear, shown⟩ | ⟨visible, shown⟩
    · rw [shown]
      exact ih
    · rw [shown, spaced_cons]
      refine ⟨fun _ => rfl, ?_, ih⟩
      rintro ⟨_, next⟩
      rw [collapse_head?] at next
      obtain ⟨d, first, isSpace⟩ := Option.map_eq_some_iff.mp next
      rw [clear d first, if_neg Bool.false_ne_true] at isSpace
      have visible := clear d first
      rw [isSpace] at visible
      cases visible
    · rw [shown, spaced_cons]
      refine ⟨fun blank => ?_, ?_, ih⟩
      · rw [blank] at visible
        cases visible
      · rintro ⟨rfl, _⟩
        cases visible

theorem collapse_of_spaced (spaced : Spaced cs) : collapse cs = cs := by
  induction cs with
  | nil => rfl
  | cons c rest ih =>
    obtain ⟨space, apart, later⟩ := spaced_cons.mp spaced
    rcases collapse_cases c rest with ⟨blank, ⟨d, others, rfl, next⟩, _⟩ | ⟨blank, _, shown⟩ | ⟨_, shown⟩
    · refine absurd ⟨space blank, ?_⟩ apart
      rw [List.head?_cons, later.spaces d List.mem_cons_self next]
    · rw [shown, ih later, space blank]
    · rw [shown, ih later]

theorem Untagged.collapse (free : Untagged cs) : Untagged (collapse cs) := by
  induction cs with
  | nil => exact untagged_nil
  | cons c rest ih =>
    obtain ⟨shut, later⟩ := untagged_cons.mp free
    rcases collapse_cases c rest with ⟨_, _, shown⟩ | ⟨_, _, shown⟩ | ⟨_, shown⟩
    · rw [shown]
      exact ih later
    · rw [shown, untagged_cons]
      refine ⟨?_, ih later⟩
      rintro ⟨opened, _⟩
      cases opened
    · rw [shown, untagged_cons]
      refine ⟨?_, ih later⟩
      rintro ⟨opened, other, closed⟩
      refine shut ⟨opened, ?_, (mem_collapse rfl rest).mp closed⟩
      intro empty
      apply other
      rw [collapse_head?, empty]
      rfl

theorem ClearStart.front (clear : ClearStart cs) (begins : part <+: cs) : ClearStart part := by
  intro c first
  obtain ⟨others, rfl⟩ := begins
  exact clear c (by rw [List.head?_append, first, Option.some_or])

theorem trimStart_clearStart (cs : List Char) : ClearStart (trimStart cs) := by
  intro c first
  have clear := List.head?_dropWhile_not isBlank cs
  change (cs.dropWhile isBlank).head? = some c at first
  rw [first] at clear
  exact clear

theorem trimEnd_begins (cs : List Char) : trimEnd cs <+: cs := List.rdropWhile_prefix isBlank cs

theorem trim_within (cs : List Char) : trim cs <:+: cs :=
  (trimEnd_begins (trimStart cs)).isInfix.trans (List.dropWhile_suffix isBlank).isInfix

theorem trim_clearStart (cs : List Char) : ClearStart (trim cs) :=
  (trimStart_clearStart cs).front (trimEnd_begins (trimStart cs))

theorem trim_clearEnd (cs : List Char) : ClearEnd (trim cs) := by
  intro c last
  have filled : (trimStart cs).rdropWhile isBlank ≠ [] := by
    intro empty
    change ((trimStart cs).rdropWhile isBlank).getLast? = some c at last
    rw [empty] at last
    cases last
  have clear := List.rdropWhile_last_not isBlank (trimStart cs) filled
  change ((trimStart cs).rdropWhile isBlank).getLast? = some c at last
  rw [List.getLast?_eq_some_getLast filled] at last
  rw [Option.some.inj last] at clear
  exact Bool.eq_false_iff.mpr clear

theorem trim_of_clear (start : ClearStart cs) (stop : ClearEnd cs) : trim cs = cs := by
  have front : trimStart cs = cs := by
    cases cs with
    | nil => rfl
    | cons c rest => exact List.dropWhile_cons_of_neg (by simp [start c rfl])
  have back : cs.rdropWhile isBlank = cs := by
    rw [List.rdropWhile_eq_self_iff]
    intro filled blank
    rw [stop _ (List.getLast?_eq_some_getLast filled)] at blank
    cases blank
  unfold trim
  rw [front]
  exact back

theorem trim_append_blank (blank : isBlank c = true) (cs : List Char) : trim (cs ++ [c]) = trim cs := by
  unfold trim trimStart
  rw [List.dropWhile_append]
  cases left : cs.dropWhile isBlank with
  | nil => simp [blank]
  | cons d rest => exact List.rdropWhile_concat_pos isBlank (d :: rest) c blank

-- Nothing is left exactly of what has blanks only.
theorem trim_eq_nil_iff : trim cs = [] ↔ ∀ c ∈ cs, isBlank c = true := by
  constructor
  · intro nothing
    change (trimStart cs).rdropWhile isBlank = [] at nothing
    have blank := List.rdropWhile_eq_nil_iff.mp nothing
    have front : trimStart cs = [] := by
      cases left : trimStart cs with
      | nil => rfl
      | cons d others =>
        have clear := trimStart_clearStart cs d (by rw [left, List.head?_cons])
        rw [blank d (by rw [left]; exact List.mem_cons_self)] at clear
        cases clear
    exact List.dropWhile_eq_nil_iff.mp front
  · intro blank
    have nothing : trimStart cs = [] := List.dropWhile_eq_nil_iff.mpr blank
    unfold trim
    rw [nothing]
    rfl

end Harvester.Text
