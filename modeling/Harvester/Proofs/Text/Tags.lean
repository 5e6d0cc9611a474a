import Harvester.Text.Clean
namespace Harvester.Text

variable {c : Char} {cs rest part : List Char}

-- What stands between the brackets is anything but `>`: also `<`, a slash or a blank.
def IsTag (cs : List Char) : Prop := ∃ inside, inside ≠ [] ∧ '>' ∉ inside ∧ cs = '<' :: (inside ++ ['>'])

def Untagged (cs : List Char) : Prop := ∀ tag, IsTag tag → ¬ tag <:+: cs

-- The test by which tags are found.
def OpensTag (c : Char) (rest : List Char) : Prop := c = '<' ∧ rest.head? ≠ some '>' ∧ '>' ∈ rest

theorem opensTag_iff : OpensTag c rest ↔ ∃ tag, IsTag tag ∧ tag <+: c :: rest := by
  constructor
  · rintro ⟨rfl, other, closed⟩
    obtain ⟨inside, behind, whole, free⟩ := List.eq_append_cons_of_mem closed
    refine ⟨'<' :: (inside ++ ['>']), ⟨inside, ?_, free, rfl⟩, behind, ?_⟩
    · rintro rfl
      apply other
      rw [whole]
      rfl
    · rw [whole, List.cons_append, List.append_assoc]
      rfl
  · rintro ⟨_, ⟨inside, filled, free, rfl⟩, begins⟩
    obtain ⟨rfl, behind, rfl⟩ := List.cons_prefix_cons.mp begins
    cases inside with
    | nil => exact absurd rfl filled
    | cons first others =>
      refine ⟨rfl, ?_, by simp⟩
      intro same
      apply free
      rw [← Option.some.inj same]
      exact List.mem_cons_self

theorem untagged_nil : Untagged [] := by
  rintro _ ⟨inside, _, _, rfl⟩ found
  cases List.infix_nil.mp found

theorem untagged_cons : Untagged (c :: rest) ↔ ¬ OpensTag c rest ∧ Untagged rest := by
  rw [opensTag_iff]
  constructor
  · intro free
    refine ⟨?_, fun tag isTag found => free tag isTag (found.trans (List.suffix_cons c rest).isInfix)⟩
    rintro ⟨tag, isTag, begins⟩
    exact free tag isTag begins.isInfix
  · rintro ⟨none_, free⟩ tag isTag found
    rcases List.infix_cons_iff.mp found with here | later
    · exact none_ ⟨tag, isTag, here⟩
    · exact free tag isTag later

theorem Untagged.within (free : Untagged cs) (inside : part <:+: cs) : Untagged part :=
  fun tag isTag found => free tag isTag (found.trans inside)

-- Said of the brackets: one that opens is closed at once, or nothing behind it closes.
theorem Untagged.brackets (free : Untagged cs) (before after : List Char) (split : cs = before ++ '<' :: after) :
    after.head? = some '>' ∨ '>' ∉ after := by
  have behind : Untagged ('<' :: after) := free.within ⟨before, [], by rw [split, List.append_nil]⟩
  have shut := (untagged_cons.mp behind).1
  by_cases empty : after.head? = some '>'
  · exact .inl empty
  · exact .inr fun closed => shut ⟨rfl, empty, closed⟩

-- A list that is changed character by character has tags where it had them, when no bracket comes or goes.
theorem Untagged.map {f : Char → Char} (opening : ∀ c, f c = '<' → c = '<') (closing : ∀ c, f c = '>' ↔ c = '>')
    (free : Untagged cs) : Untagged (cs.map f) := by
  induction cs with
  | nil => exact untagged_nil
  | cons c rest ih =>
    obtain ⟨shut, later⟩ := untagged_cons.mp free
    rw [List.map_cons, untagged_cons]
    refine ⟨?_, ih later⟩
    rintro ⟨opened, other, closed⟩
    refine shut ⟨opening c opened, ?_, ?_⟩
    · intro empty
      apply other
      rw [List.head?_map, empty, Option.map_some, (closing '>').mpr rfl]
    · obtain ⟨d, present, same⟩ := List.mem_map.mp closed
      rwa [← (closing d).mp same]

theorem stripTags_sublist (inside : Bool) (cs : List Char) : (stripTags inside cs).Sublist cs := by
  induction cs generalizing inside with
  | nil => exact List.Sublist.refl []
  | cons c rest ih =>
    unfold stripTags
    split
    · exact (ih _).cons c
    · split
      · exact (ih true).cons c
      · exact (ih false).cons_cons c

-- Nothing that is left out can turn what stays into a tag: a bracket that stays was already closed at once, or never.
theorem stripTags_untagged (inside : Bool) (cs : List Char) : Untagged (stripTags inside cs) := by
  induction cs generalizing inside with
  | nil => exact untagged_nil
  | cons c rest ih =>
    unfold stripTags
    split
    · exact ih _
    · split
      · exact ih true
      · rename_i shut
        refine untagged_cons.mpr ⟨?_, ih false⟩
        rintro ⟨opened, other, closed⟩
        have closedBefore : '>' ∈ rest := (stripTags_sublist false rest).subset closed
        refine shut ⟨opened, ?_, List.contains_iff_mem.mpr closedBefore⟩
        intro empty
        cases rest with
        | nil => cases empty
        | cons d others =>
          cases Option.some.inj empty
          exact other rfl

theorem stripTags_of_untagged (free : Untagged cs) : stripTags false cs = cs := by
  induction cs with
  | nil => rfl
  | cons c rest ih =>
    obtain ⟨shut, later⟩ := untagged_cons.mp free
    unfold stripTags
    rw [if_neg Bool.false_ne_true, if_neg, ih later]
    rintro ⟨opened, other, closed⟩
    exact shut ⟨opened, other, List.contains_iff_mem.mp closed⟩

end Harvester.Text
