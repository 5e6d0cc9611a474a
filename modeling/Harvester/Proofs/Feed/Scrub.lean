import Harvester.Feed.Document
import Harvester.Proofs.Text.Replacement
import Harvester.Proofs.Xml.Markup
namespace Harvester.Feed

open Text Xml

-- Every `&` begins a reference by name.
inductive Referenced : List Char → Prop
  | nil : Referenced []
  | plain (other : c ≠ '&') (behind : Referenced cs) : Referenced (c :: cs)
  | reference (known : name ∈ references) (behind : Referenced cs) : Referenced ('&' :: (name ++ ';' :: cs))

variable {c : Char} {cs ds name : List Char} {loose : List Char × List Char}

theorem Referenced.append (front : Referenced cs) (back : Referenced ds) : Referenced (cs ++ ds) := by
  induction front with
  | nil => exact back
  | plain other _ ih => exact .plain other ih
  | reference known _ ih =>
    rw [List.cons_append, List.append_assoc, List.cons_append]
    exact .reference known ih

theorem referenced_of_plain (plain : ∀ c ∈ cs, c ≠ '&') : Referenced cs := by
  induction cs with
  | nil => exact .nil
  | cons c cs ih =>
    obtain ⟨first, later⟩ := List.forall_mem_cons.mp plain
    exact .plain first (ih later)

theorem escape_referenced (cs : List Char) : Referenced (escape cs) := by
  induction cs with
  | nil => exact .nil
  | cons c cs ih =>
    rw [escape_cons]
    refine Referenced.append ?_ ih
    rcases escapeChar_cases c with ⟨shown, plain⟩ | ⟨name, known, _, shown⟩
    · rw [shown]
      exact .plain (fun same => plain (by rw [same]; decide)) .nil
    · rw [shown]
      exact .reference known .nil

theorem name_plain {name : Name} (present : c ∈ name.chars) : c ≠ '&' := by
  rintro rfl
  exact (name.legal_of_mem present).2 (by decide)

theorem writeAttributes_referenced (entries : List (Name × List Char)) : Referenced (writeAttributes entries) := by
  induction entries with
  | nil => exact .nil
  | cons entry entries ih =>
    refine Referenced.append (.plain (by decide) ?_) ih
    have quoted : Referenced ('=' :: '"' :: (escape entry.2 ++ ['"'])) :=
      .plain (by decide) (.plain (by decide) ((escape_referenced entry.2).append (referenced_of_plain (by simp))))
    exact (referenced_of_plain fun _ present => name_plain present).append quoted

theorem writeElement_referenced (name : Name) (attributes : Attributes) (short : Bool) (inner : Referenced cs) :
    Referenced ('<' :: writeElement name attributes short cs) := by
  have named : Referenced name.chars := referenced_of_plain fun _ present => name_plain present
  refine .plain (by decide) ((named.append (writeAttributes_referenced attributes.entries)).append ?_)
  split
  · exact referenced_of_plain (by simp)
  · refine .plain (by decide) (inner.append (.plain (by decide) (.plain (by decide) ?_)))
    exact named.append (referenced_of_plain (by simp))

-- A writer of markup makes no references but those by name.
mutual
theorem write_referenced : ∀ markup : Markup, Referenced markup.write
  | .text content => escape_referenced content
  | .element name attributes short content => by
    rw [Markup.write]
    exact writeElement_referenced name attributes short (writeAll_referenced content)
theorem writeAll_referenced : ∀ markups : List Markup, Referenced (writeAll markups)
  | [] => .nil
  | markup :: rest => (write_referenced markup).append (writeAll_referenced rest)
end

-- No reference by name begins like one of the names that feeds use without declaring them.
theorem loose_apart (isLoose : loose ∈ looseNames) (known : name ∈ references) (rest : List Char) :
    ¬ loose.1 <+: '&' :: (name ++ ';' :: rest) := by
  rw [← dropPattern?_eq_none_iff]
  simp only [references, List.mem_cons, List.not_mem_nil, or_false] at known
  simp only [looseNames, List.mem_cons, List.not_mem_nil, or_false] at isLoose
  rcases isLoose with rfl | rfl | rfl | rfl | rfl | rfl | rfl <;>
    rcases known with rfl | rfl | rfl | rfl | rfl <;> rfl

theorem looseNames_separable : Separable '&' looseNames where
  begins := by decide
  once := by decide
  unmixed := by decide
  filled := by decide
  foreign := by
    intro entry present other presentToo
    have apart : ∀ entry ∈ looseNames, ∀ other ∈ looseNames, entry.2.all (!other.1.contains ·) = true := by decide
    simpa using apart entry present other presentToo

-- One name after the other is replaced, and so are all of them at once.
theorem scrub_eq (cs : List Char) : scrub cs = replaceEach looseNames cs := foldl_replaceAll looseNames_separable cs

theorem Referenced.absent (referenced : Referenced cs) (isLoose : loose ∈ looseNames) : ¬ loose.1 <:+: cs := by
  have begins := looseNames_separable.begins loose isLoose
  induction referenced with
  | nil =>
    intro inside
    simp [List.infix_nil.mp inside] at begins
  | @plain c cs other _ ih =>
    have unmarked : '&' ∉ [c] := by simpa using other.symm
    exact absent_append begins unmarked ih
  | @reference name cs known _ ih =>
    intro inside
    rcases List.infix_cons_iff.mp inside with here | behind
    · exact loose_apart isLoose known cs here
    · have letters : ∀ name ∈ references, '&' ∉ name ++ [';'] := by decide
      rw [List.append_cons] at behind
      exact absent_append begins (letters name known) ih behind

-- Nothing is replaced in a text whose references are all by name.
theorem Referenced.scrub (referenced : Referenced cs) : scrub cs = cs := by
  rw [scrub_eq]
  exact replaceEach_of_absent fun _ isLoose => referenced.absent isLoose

-- The characters that end a replacement: none of the names has them.
theorem scrub_split (apart : ∀ loose ∈ looseNames, c ∉ loose.1) (cs ds : List Char) :
    scrub (cs ++ c :: ds) = scrub cs ++ c :: scrub ds := by
  simp only [scrub_eq]
  exact replaceEach_split looseNames_separable apart cs ds

-- The order in which the names are replaced does not count: it is as if all were looked for at once, from the left to
-- the right. What is left behind holds none of them, and a text may be cut wherever no name is.
theorem scrub_simultaneous (cs : List Char) :
    scrub cs = replaceEach
      [("&nbsp;".toList, [' ']), ("&ndash;".toList, ['-']), ("&mdash;".toList, ['-']), ("&ldquo;".toList, ['"']),
        ("&rdquo;".toList, ['"']), ("&lsquo;".toList, ['\'']), ("&rsquo;".toList, ['\''])] cs ∧
    (∀ loose ∈ looseNames, ¬ loose.1 <:+: scrub cs) ∧ scrub (scrub cs) = scrub cs ∧
    (∀ names : List (List Char × List Char), names.Perm looseNames →
      names.foldl (fun cs name => replaceAll name.1 name.2 cs) cs = scrub cs) ∧
    ∀ ds, scrub (cs ++ ds) = scrub cs ++ scrub ds ↔ Unsplit looseNames cs ds := by
  have absent : ∀ loose ∈ looseNames, ¬ loose.1 <:+: scrub cs := by
    intro loose isLoose
    rw [scrub_eq]
    exact replaceEach_absent looseNames_separable isLoose cs
  refine ⟨scrub_eq cs, absent, ?_, ?_, ?_⟩
  · rw [scrub_eq (scrub cs)]
    exact replaceEach_of_absent absent
  · intro names same
    have separable : Separable '&' names := looseNames_separable.within same.subset
    rw [foldl_replaceAll separable, scrub_eq]
    exact replaceEach_congr looseNames_separable (fun _ => same.mem_iff) cs
  · intro ds
    simp only [scrub_eq]
    exact replaceEach_append_iff looseNames_separable

-- A name put around another one, and one that lacks its end.
theorem scrub_simultaneous_fragments :
    let front := "&nb&ndash;sp;&amp;rsquo; &mdash".toList
    looseNames.reverse.foldl (fun cs name => replaceAll name.1 name.2 cs) front = scrub front ∧
      scrub front = "&nb-sp;&amp;rsquo; &mdash".toList ∧
      scrub (front ++ "&nbsp;;".toList) = scrub front ++ scrub "&nbsp;;".toList ∧
      scrub (front ++ ";&nbsp;".toList) ≠ scrub front ++ scrub ";&nbsp;".toList := by
  intro front
  obtain ⟨_, _, _, ordered, apart⟩ := scrub_simultaneous front
  refine ⟨ordered _ looseNames.reverse_perm, by decide, (apart _).mpr (by decide), ?_⟩
  intro same
  exact absurd ((apart _).mp same) (by decide)

end Harvester.Feed
