import Harvester.Proofs.Json.Elements
import Harvester.Proofs.Xml.Markup
namespace Harvester.Xml

-- Elements one behind the other, with nothing but blanks before, between and behind them.
inductive Spaced : List Markup → List Markup → Prop
  | nil : Spaced [] []
  | gap (blank : ∀ c ∈ blanks, isSpace c = true) (behind : Spaced content elements) :
    Spaced (.text blanks :: content) elements
  | element (behind : Spaced content elements) :
    Spaced (.element name attributes short within :: content) (.element name attributes short within :: elements)

-- What a reader of records meets of an element that was written.
inductive Shows : Markup → Child → Prop
  | element :
    Shows (.element name attributes short content) ⟨name.chars, attributes.write, nodesFrom [] content, settled⟩

variable {content elements : List Markup} {pending first : List Char} {settled : Bool} {lists : List String}
  {nodes : List Node}

theorem Shows.formed {markup : Markup} {child : Child} (shows : Shows markup child) :
    ∃ pairs, attributes? child.attributes = some pairs := by
  cases shows
  exact ⟨_, attributes?_write _⟩

theorem sound_escape (cs : List Char) : sound (.text (escape cs)) = true := by
  rw [sound, resolve?_escape, Option.isSome_some]

theorem soundAll_textNode (pending : List Char) (nodes : List Node) :
    soundAll (textNode pending ++ nodes) = soundAll nodes := by
  unfold textNode
  split
  · rfl
  · rw [List.singleton_append, soundAll, sound_escape, Bool.true_and]

-- All references a writer makes have a meaning.
theorem soundAll_nodesFrom (pending : List Char) (markups : List Markup) :
    soundAll (nodesFrom pending markups) = true := by
  induction pending, markups using nodesFrom.induct with
  | case1 pending => rw [nodesFrom, ← List.append_nil (textNode pending), soundAll_textNode, soundAll]
  | case2 pending content markups ih => rw [nodesFrom, ih]
  | case3 pending name attributes short content markups inside ih =>
    rw [nodesFrom, soundAll_textNode, soundAll, sound, inside, ih, Bool.and_self]

theorem childrenBehind_textNode (blank : ∀ c ∈ pending, isSpace c = true) (nodes : List Node) :
    childrenBehind first settled (textNode pending ++ nodes) = childrenBehind first settled nodes := by
  unfold textNode
  split
  · rfl
  · have blanks : (escape pending).all isSpace = true := by
      rw [escape_of_spaces blank]
      exact List.all_eq_true.mpr blank
    rw [List.singleton_append, childrenBehind, if_pos blanks]

theorem children?_textNode (pending : List Char) (nodes : List Node) :
    children? lists settled (textNode pending ++ nodes) = children? lists settled nodes := by
  unfold textNode
  split
  · rfl
  · rw [List.singleton_append, children?, resolve?_escape, Option.isSome_some, if_pos rfl]

theorem Spaced.childrenBehind (spaced : Spaced content elements) (first : List Char) (settled : Bool)
    (blank : ∀ c ∈ pending, isSpace c = true) :
    ∃ kids, Xml.childrenBehind first settled (nodesFrom pending content) = some kids ∧
      List.Forall₂ Shows elements kids := by
  induction spaced generalizing pending with
  | nil =>
    rw [nodesFrom, ← List.append_nil (textNode pending), childrenBehind_textNode blank]
    exact ⟨[], rfl, .nil⟩
  | gap blankToo _ ih =>
    rw [nodesFrom]
    exact ih fun c present => (List.mem_append.mp present).elim (blank c) (blankToo c)
  | element behind ih =>
    obtain ⟨kids, read, shown⟩ := ih (List.forall_mem_nil _)
    rw [nodesFrom, childrenBehind_textNode blank, Xml.childrenBehind, soundAll_nodesFrom, if_pos rfl, read]
    split
    · exact ⟨_, rfl, .cons .element shown⟩
    · exact ⟨_, rfl, .cons .element shown⟩

-- A record meets the elements that were written, all of them and in their order, whichever of its lists begins where.
theorem Spaced.children? (spaced : Spaced content elements) (lists : List String) (settled : Bool)
    (pending : List Char) : ∃ kids, Xml.children? lists settled (nodesFrom pending content) = some kids ∧
      List.Forall₂ Shows elements kids := by
  induction spaced generalizing pending with
  | nil =>
    rw [nodesFrom, ← List.append_nil (textNode pending), children?_textNode]
    exact ⟨[], rfl, .nil⟩
  | gap _ _ ih =>
    rw [nodesFrom]
    exact ih _
  | element behind ih =>
    rw [nodesFrom, children?_textNode, Xml.children?]
    split
    · obtain ⟨kids, read, shown⟩ := behind.childrenBehind _ settled (List.forall_mem_nil _)
      rw [read]
      exact ⟨_, rfl, .cons .element shown⟩
    · obtain ⟨kids, read, shown⟩ := ih []
      rw [read]
      exact ⟨_, rfl, .cons .element shown⟩

theorem Spaced.ofElement? (spaced : Spaced content elements) (lists : List String) {child : Child}
    (shows : Shows (.element name attributes short content) child) :
    ∃ record, Record.ofElement? lists child = some record ∧ List.Forall₂ Shows elements record.children := by
  cases shows with
  | element =>
    obtain ⟨kids, read, shown⟩ := spaced.children? lists _ []
    rw [Record.ofElement?, attributes?_write, Option.bind_some, read]
    exact ⟨_, rfl, shown⟩

variable {record : Record} {label : String} {read : Child → Option α}

theorem Record.once?_of_each {value : Option α}
    (each : List.Forall₂ (fun child x => read child = some x) (record.children.filter fun child => child.isNamed label)
      value.toList) : record.once? label read = some value := by
  unfold once?
  cases value with
  | none => rw [List.forall₂_nil_right_iff.mp each]
  | some x =>
    obtain ⟨child, others, first, later, listed⟩ := List.forall₂_cons_right_iff.mp each
    cases List.forall₂_nil_right_iff.mp later
    simp only [listed, first, Option.map_some]

theorem Record.many?_of_each {full : List Char} {values : List α}
    (each : List.Forall₂ (fun child x => child.name = full ∧ read child = some x)
      (record.children.filter fun child => child.isNamed label) values) : record.many? label read = some values := by
  obtain ⟨same, each⟩ := (List.forall₂_and_left _ _).mp each
  unfold many?
  cases listed : record.children.filter fun child => child.isNamed label with
  | nil =>
    rw [listed] at each
    rw [List.forall₂_nil_left_iff.mp each]
  | cons child others =>
    rw [listed] at each same
    obtain ⟨first, later⟩ := List.forall_mem_cons.mp same
    have alike : (others.all fun other => other.name = child.name) = true := by
      refine List.all_eq_true.mpr fun other present => ?_
      rw [first, later other present, decide_eq_true rfl]
    simp only [alike, if_true]
    exact mapM_eq_some_iff.mpr each

end Harvester.Xml
