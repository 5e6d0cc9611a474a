import Harvester.Proofs.Text.Spacing
namespace Harvester.Text

variable {c : Char} {cs word rest : List Char} {ws : List (List Char)}

-- Single spaces between words, and nothing at the ends.
structure Neat (cs : List Char) : Prop where
  spaced : Spaced cs
  start : ClearStart cs
  stop : ClearEnd cs

def IsWord (cs : List Char) : Prop := cs ≠ [] ∧ ∀ c ∈ cs, isBlank c = false

theorem wordsFrom_words (front : ∀ c ∈ word, isBlank c = false) (cs : List Char) :
    ∀ w ∈ wordsFrom word cs, IsWord w := by
  have ended {word : List Char} (filled : word.isEmpty = false) (front : ∀ c ∈ word, isBlank c = false) :
      IsWord word.reverse := by
    refine ⟨fun empty => ?_, fun c present => front c (List.mem_reverse.mp present)⟩
    rw [List.reverse_eq_nil_iff.mp empty] at filled
    cases filled
  induction cs generalizing word with
  | nil =>
    cases filled : word.isEmpty with
    | true => simp [wordsFrom, filled]
    | false => simpa [wordsFrom, filled] using ended filled front
  | cons c cs ih =>
    cases blank : isBlank c with
    | false =>
      simp only [wordsFrom, blank]
      exact ih (List.forall_mem_cons.mpr ⟨blank, front⟩)
    | true =>
      cases filled : word.isEmpty with
      | true =>
        simp only [wordsFrom, blank, filled, if_true]
        exact ih (List.forall_mem_nil _)
      | false =>
        simp only [wordsFrom, blank, filled, if_true]
        exact List.forall_mem_cons.mpr ⟨ended filled front, ih (List.forall_mem_nil _)⟩

theorem words_words (cs : List Char) : ∀ w ∈ words cs, IsWord w := wordsFrom_words (List.forall_mem_nil _) cs

theorem spaced_append (visible : ∀ c ∈ word, isBlank c = false) (spaced : Spaced rest) : Spaced (word ++ rest) := by
  induction word with
  | nil => exact spaced
  | cons c word ih =>
    obtain ⟨first, later⟩ := List.forall_mem_cons.mp visible
    rw [List.cons_append, spaced_cons]
    refine ⟨fun blank => ?_, ?_, ih later⟩
    · rw [first] at blank
      cases blank
    · rintro ⟨rfl, _⟩
      cases first

theorem IsWord.neat (isWord : IsWord word) : Neat word := by
  have spaced := spaced_append isWord.2 spaced_nil
  rw [List.append_nil] at spaced
  exact ⟨spaced, fun c first => isWord.2 c (List.mem_of_head? first),
    fun c last => isWord.2 c (List.mem_of_getLast? last)⟩

theorem Neat.prepend (neat : Neat rest) (filled : rest ≠ []) (isWord : IsWord word) : Neat (word ++ ' ' :: rest) := by
  obtain ⟨next, others, rfl⟩ := List.exists_cons_of_ne_nil filled
  constructor
  · refine spaced_append isWord.2 (spaced_cons.mpr ⟨fun _ => rfl, ?_, neat.spaced⟩)
    rintro ⟨_, first⟩
    have clear := neat.start ' ' first
    cases clear
  · intro c first
    refine isWord.2 c (List.mem_of_head? ?_)
    rwa [List.head?_append_of_ne_nil _ isWord.1] at first
  · intro c last
    rw [List.getLast?_append_of_ne_nil _ (List.cons_ne_nil _ _), List.getLast?_cons_cons] at last
    exact neat.stop c last

theorem intercalate_filled (isWord : IsWord word) (ws : List (List Char)) : [' '].intercalate (word :: ws) ≠ [] := by
  cases ws with
  | nil =>
    rw [List.intercalate_singleton]
    exact isWord.1
  | cons next ws =>
    rw [List.intercalate_cons_cons, List.append_assoc]
    exact List.append_ne_nil_of_left_ne_nil isWord.1 _

theorem neat_intercalate (allWords : ∀ w ∈ ws, IsWord w) : Neat ([' '].intercalate ws) := by
  induction ws with
  | nil =>
    refine ⟨spaced_nil, fun c first => ?_, fun c last => ?_⟩
    · cases first
    · cases last
  | cons w ws ih =>
    obtain ⟨first, later⟩ := List.forall_mem_cons.mp allWords
    cases ws with
    | nil =>
      rw [List.intercalate_singleton]
      exact first.neat
    | cons next ws =>
      rw [List.intercalate_cons_cons, List.append_assoc]
      exact (ih later).prepend (intercalate_filled (later next List.mem_cons_self) ws) first

end Harvester.Text
