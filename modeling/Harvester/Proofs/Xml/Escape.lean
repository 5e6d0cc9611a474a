import Harvester.Xml.Record
namespace Harvester.Xml

open Text

variable {c d : Char} {cs name : List Char}

def references : List (List Char) :=
  [['l', 't'], ['g', 't'], ['a', 'm', 'p'], ['a', 'p', 'o', 's'], ['q', 'u', 'o', 't']]

-- A character is written as itself or as a reference by name.
theorem escapeChar_cases (c : Char) :
    (escapeChar c = [c] ∧ c ∉ ['<', '>', '&', '\'', '"']) ∨
      ∃ name ∈ references, predefined? name = some c ∧ escapeChar c = '&' :: (name ++ [';']) := by
  by_cases special : c ∈ ['<', '>', '&', '\'', '"']
  · right
    simp only [List.mem_cons, List.not_mem_nil, or_false] at special
    rcases special with rfl | rfl | rfl | rfl | rfl
    · exact ⟨['l', 't'], by decide, rfl, rfl⟩
    · exact ⟨['g', 't'], by decide, rfl, rfl⟩
    · exact ⟨['a', 'm', 'p'], by decide, rfl, rfl⟩
    · exact ⟨['a', 'p', 'o', 's'], by decide, rfl, rfl⟩
    · exact ⟨['q', 'u', 'o', 't'], by decide, rfl, rfl⟩
  · refine .inl ⟨?_, special⟩
    simp only [List.mem_cons, List.not_mem_nil, or_false, not_or] at special
    simp [escapeChar, special]

theorem escape_cons (c : Char) (cs : List Char) : escape (c :: cs) = escapeChar c ++ escape cs := rfl

theorem escape_append (cs ds : List Char) : escape (cs ++ ds) = escape cs ++ escape ds := List.flatMap_append

theorem resolveFrom_reference (known : name ∈ references) (means : predefined? name = some c) (rest : List Char) :
    resolveFrom none ('&' :: (name ++ ';' :: rest)) = (resolveFrom none rest).map (c :: ·) := by
  simp only [references, List.mem_cons, List.not_mem_nil, or_false] at known
  rcases known with rfl | rfl | rfl | rfl | rfl <;> cases means <;> rfl

-- What is written is read back.
theorem resolve?_escape (cs : List Char) : resolve? (escape cs) = some cs := by
  induction cs with
  | nil => rfl
  | cons c cs ih =>
    rw [resolve?] at ih ⊢
    rw [escape_cons]
    rcases escapeChar_cases c with ⟨shown, plain⟩ | ⟨name, known, means, shown⟩
    · have other : c ≠ '&' := fun same => plain (by rw [same]; decide)
      rw [shown, List.singleton_append, resolveFrom]
      simp only [if_neg other, ih, Option.map_some]
    · rw [shown, List.cons_append, List.append_assoc, List.singleton_append, resolveFrom_reference known means, ih]
      rfl

-- The characters by which markup and quoted values end are not left in what is written.
def isMark (c : Char) : Bool := c == '<' || c == '>' || c == '\'' || c == '"'

theorem escape_unmarked (cs : List Char) : ∀ c ∈ escape cs, isMark c = false := by
  intro c present
  obtain ⟨d, _, inside⟩ := List.mem_flatMap.mp present
  rcases escapeChar_cases d with ⟨shown, plain⟩ | ⟨name, known, _, shown⟩
  · rw [shown] at inside
    cases List.mem_singleton.mp inside
    simp only [List.mem_cons, List.not_mem_nil, or_false, not_or] at plain
    simp [isMark, plain]
  · have letters : (references.all fun name => ('&' :: (name ++ [';'])).all fun c => !isMark c) = true := by decide
    rw [shown] at inside
    have unmarked := List.all_eq_true.mp (List.all_eq_true.mp letters name known) c inside
    simpa using unmarked

theorem escape_ne (mark : isMark d = true) (present : c ∈ escape cs) : c ≠ d := by
  rintro rfl
  rw [escape_unmarked cs c present] at mark
  cases mark

theorem escape_eq_nil_iff : escape cs = [] ↔ cs = [] := by
  constructor
  · intro empty
    have read := resolve?_escape cs
    rw [empty] at read
    exact (Option.some.inj read).symm
  · rintro rfl
    rfl

theorem escape_of_spaces (spaces : ∀ c ∈ cs, isSpace c = true) : escape cs = cs := by
  induction cs with
  | nil => rfl
  | cons c cs ih =>
    obtain ⟨first, later⟩ := List.forall_mem_cons.mp spaces
    rw [escape_cons, ih later]
    rcases escapeChar_cases c with ⟨shown, _⟩ | ⟨name, known, means, _⟩
    · rw [shown, List.singleton_append]
    · simp only [references, List.mem_cons, List.not_mem_nil, or_false] at known
      rcases known with rfl | rfl | rfl | rfl | rfl <;> cases means <;> cases first

-- A text that neither begins nor ends with a blank of markup, and is not empty.
structure Solid (cs : List Char) : Prop where
  start : ∃ c, cs.head? = some c ∧ isSpace c = false
  stop : ∃ c, cs.getLast? = some c ∧ isSpace c = false

theorem solid_iff :
    Solid cs ↔ (cs.head?.any fun c => !isSpace c) = true ∧ (cs.getLast?.any fun c => !isSpace c) = true := by
  simp only [Option.any_eq_true, Bool.not_eq_true']
  exact ⟨fun solid => ⟨solid.start, solid.stop⟩, fun ends => ⟨ends.1, ends.2⟩⟩

instance : Decidable (Solid cs) := decidable_of_iff _ solid_iff.symm

theorem escapeChar_solid (visible : isSpace c = false) : Solid (escapeChar c) := by
  rcases escapeChar_cases c with ⟨shown, _⟩ | ⟨name, known, means, shown⟩
  · rw [shown]
    exact ⟨⟨c, rfl, visible⟩, ⟨c, rfl, visible⟩⟩
  · rw [shown]
    exact ⟨⟨'&', rfl, rfl⟩, ⟨';', by rw [← List.cons_append, List.getLast?_concat], rfl⟩⟩

theorem Solid.escape (solid : Solid cs) : Solid (escape cs) := by
  obtain ⟨⟨c, first, visible⟩, ⟨d, last, visibleToo⟩⟩ := solid
  constructor
  · obtain ⟨rest, rfl⟩ := List.head?_eq_some_iff.mp first
    obtain ⟨e, shown, clear⟩ := (escapeChar_solid visible).start
    refine ⟨e, ?_, clear⟩
    rw [escape_cons, List.head?_append, shown, Option.some_or]
  · obtain ⟨front, rfl⟩ := List.getLast?_eq_some_iff.mp last
    obtain ⟨e, shown, clear⟩ := (escapeChar_solid visibleToo).stop
    refine ⟨e, ?_, clear⟩
    have single : Xml.escape [d] = escapeChar d := List.flatMap_singleton escapeChar d
    rw [escape_append, single, List.getLast?_append, shown, Option.some_or]

theorem Solid.dropSpaces (solid : Solid cs) : dropSpaces cs = cs := by
  obtain ⟨c, first, visible⟩ := solid.start
  obtain ⟨rest, rfl⟩ := List.head?_eq_some_iff.mp first
  exact List.dropWhile_cons_of_neg (by simp [visible])

theorem Solid.dropSpacesEnd (solid : Solid cs) : dropSpacesEnd cs = cs := by
  obtain ⟨c, last, visible⟩ := solid.stop
  obtain ⟨front, rfl⟩ := List.getLast?_eq_some_iff.mp last
  unfold Xml.dropSpacesEnd
  rw [List.reverse_concat, List.dropWhile_cons_of_neg (by simp [visible]), ← List.reverse_concat, List.reverse_reverse]

theorem Solid.notBlank (solid : Solid cs) : cs.all isSpace = false := by
  obtain ⟨c, first, visible⟩ := solid.start
  obtain ⟨rest, rfl⟩ := List.head?_eq_some_iff.mp first
  simp [visible]

-- A text that stands alone between its tags is read as it was before it was written.
theorem Solid.runText? (solid : Solid cs) : runText? true [.text (Xml.escape cs)] = some (some cs) := by
  have written := solid.escape
  simp [Xml.runText?, trimFront, written.notBlank, written.dropSpaces, written.dropSpacesEnd, joined?, resolve?_escape]

end Harvester.Xml
