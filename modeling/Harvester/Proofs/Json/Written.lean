import Harvester.Json.Writer
import Harvester.Proofs.Json.Language
namespace Harvester.Json

open Text

-- What the writers write is spelled as the grammar says, so it is read as what it was.

theorem letter_control {c d : Char} {n : Nat} (code : c.toNat = n) (known : (d, Char.ofNat n) ∈ shortEscapes) :
    Letter ['\\', d] (codeUnits c) := by
  rw [eq_ofNat code]
  exact .short known

theorem letter_escapeChar (c : Char) : Letter (escapeChar c) (codeUnits c) := by
  simp only [escapeChar]
  split
  · rename_i same
    subst same
    exact .short (by decide)
  split
  · rename_i same
    subst same
    exact .short (by decide)
  split
  · exact letter_control (by assumption) (by decide)
  split
  · exact letter_control (by assumption) (by decide)
  split
  · exact letter_control (by assumption) (by decide)
  split
  · exact letter_control (by assumption) (by decide)
  split
  · exact letter_control (by assumption) (by decide)
  split
  · rename_i small
    have zero : hexValue? '0' = some 0 := by decide
    have high := hexValue_hexDigit (c.toNat / 16) (by omega)
    have low := hexValue_hexDigit (c.toNat % 16) (by omega)
    have hexes := (((Hexes.nil.more zero).more zero).more high).more low
    have value : (((0 * 16 + 0) * 16 + 0) * 16 + c.toNat / 16) * 16 + c.toNat % 16 = c.toNat := by omega
    rw [value] at hexes
    rw [codeUnits_small (by omega)]
    exact .code hexes rfl
  · rename_i noQuote noBackslash _ _ _ _ _ large
    exact .plain noQuote noBackslash (by omega)

theorem Letters.behind {us vs : List Nat} (first : Letter cs us) (letters : Letters ds vs) :
    Letters (cs ++ ds) (us ++ vs) := by
  induction letters with
  | nil =>
    have single := Letters.nil.more first
    rwa [List.nil_append, List.nil_append, ← List.append_nil cs, ← List.append_nil us] at single
  | more _ last ih =>
    have longer := ih.more last
    rwa [List.append_assoc, List.append_assoc] at longer

theorem letters_escaped (cs : List Char) : Letters (cs.flatMap escapeChar) (units cs) := by
  induction cs with
  | nil => exact .nil
  | cons c cs ih =>
    rw [List.flatMap_cons, units_cons]
    exact .behind (letter_escapeChar c) ih

theorem literal_quote (s : String) : Literal (quote s) (units s.toList) := .quoted (letters_escaped s.toList)

theorem number_intText (z : Int) : Number (intText z) (.int z) := by
  have value (n : Nat) : natOf (Nat.toDigits 10 n) = n := foldl_toDigits n
  have whole {n : Nat} (positive : 0 < n) : Whole (Nat.toDigits 10 n) := by
    obtain ⟨first, rest, shown, nonzero⟩ := toDigits_first positive
    have digits : ∀ c ∈ first :: rest, isDigit c = true := fun c present => isDigit_of_mem (shown ▸ present)
    obtain ⟨digit, others⟩ := List.forall_mem_cons.mp digits
    rw [shown]
    exact .more digit nonzero others
  rcases intText_cases z with ⟨n, rfl, shown⟩ | ⟨n, positive, rfl, shown⟩
  · have number : Whole (Nat.toDigits 10 n) := by
      rcases Nat.eq_zero_or_pos n with rfl | positive
      · exact .zero
      · exact whole positive
    rw [shown, ← value n]
    have spelled := Number.positive number
    rwa [value] at spelled ⊢
  · have other : Nat.toDigits 10 n ≠ ['0'] := by
      intro zero
      have nothing := value n
      rw [zero] at nothing
      exact absurd nothing (Nat.ne_of_lt positive)
    have spelled := Number.negative (whole positive) other
    rwa [value, ← shown] at spelled

theorem Spells.bare {v : Json} (value : Spells cs (.value v)) : Spells cs (.element v) := by
  have spelled := Spells.element spaces_nil value spaces_nil
  rwa [List.nil_append, List.append_nil] at spelled

theorem Spells.blanks {bs : List Char} {p : Phrase} (spelled : Spells cs p) (part : ∀ v, p ≠ .value v)
    (spaces : Spaces bs) : Spells (cs ++ bs) p := by
  induction bs generalizing cs with
  | nil => rwa [List.append_nil]
  | cons b bs ih =>
    obtain ⟨first, later⟩ := List.forall_mem_cons.mp spaces
    rw [List.append_cons]
    exact ih (spelled.blank first part) later

-- The writers begin with the first part, the grammar ends with the last.
theorem Spells.itemBefore {v : Json} {vs : List Json} (first : Spells cs (.element v)) (items : Spells ds (.items vs)) :
    Spells (cs ++ ',' :: ds) (.items (v :: vs)) := by
  generalize phrase : Phrase.items vs = p at items
  induction items generalizing vs with
  | firstItem second =>
    cases phrase
    exact .nextItem (.firstItem first) second
  | nextItem items next ih =>
    cases phrase
    have longer := Spells.nextItem (ih rfl) next
    rwa [List.append_assoc, List.cons_append, List.cons_append] at longer
  | _ => cases phrase

theorem Spells.memberBefore {field : String × Json} {fields : List (String × Json)} (first : Spells cs (.member field))
    (members : Spells ds (.members fields)) : Spells (cs ++ ',' :: ds) (.members (field :: fields)) := by
  generalize phrase : Phrase.members fields = p at members
  induction members generalizing fields with
  | firstMember second =>
    cases phrase
    exact .nextMember (.firstMember first) second
  | nextMember members next ih =>
    cases phrase
    have longer := Spells.nextMember (ih rfl) next
    rwa [List.append_assoc, List.cons_append, List.cons_append] at longer
  | _ => cases phrase

theorem spells_member {bs : List Char} {v : Json} (before : Spaces bs) (name : String)
    (value : Spells cs (.element v)) : Spells (bs ++ quote name ++ ':' :: cs) (.member (name, v)) := by
  have named := Name.named before (literal_quote name) rfl spaces_nil
  rw [List.append_nil] at named
  exact .member named value

-- No half of a surrogate pair and no decimal: what these documents spell reads back as it was.
def IsExact (v : Json) : Prop := v.holds (fun _ => false) = true

-- Where nothing is nested, there is only one way to spell a value.
theorem spells_scalar {v : Json} (scalar : v.depth = 0) (sound : v.IsExact) : Spells (compact v) (.value v) := by
  match v with
  | .null => exact .word (by simp [words, compact])
  | .bool true => exact .word (by simp [words, compact])
  | .bool false => exact .word (by simp [words, compact])
  | .int z =>
    simp only [compact]
    exact .number (number_intText z)
  | .decimal n => simp [IsExact, holds] at sound
  | .unpaired => simp [IsExact, holds] at sound
  | .str s =>
    simp only [compact]
    exact .text (literal_quote s) s rfl
  | .arr items => simp [depth] at scalar
  | .obj fields => simp [depth] at scalar

-- Documents without blanks.
mutual
theorem spells_compact (v : Json) (sound : v.IsExact) : Spells (compact v) (.value v) := by
  match v with
  | .null | .bool _ | .int _ | .decimal _ | .unpaired | .str _ => exact spells_scalar rfl sound
  | .arr [] => exact .emptyArr spaces_nil
  | .arr (item :: items) =>
    simp only [compact]
    exact .arr (spells_compactItems (item :: items) nofun (by simpa [IsExact, holds] using sound))
  | .obj [] => exact .emptyObj spaces_nil
  | .obj (field :: fields) =>
    simp only [compact]
    exact .obj (spells_compactFields (field :: fields) nofun (by simpa [IsExact, holds] using sound))

theorem spells_compactItems (items : List Json) (more : items ≠ []) (sound : holdsItems (fun _ => false) items = true) :
    Spells (compactItems items) (.items items) := by
  match items with
  | [] => exact absurd rfl more
  | [item] =>
    simp only [holdsItems, Bool.and_eq_true] at sound
    simp only [compactItems]
    exact .firstItem (spells_compact item sound.1).bare
  | item :: next :: others =>
    simp only [holdsItems, Bool.and_eq_true] at sound
    simp only [compactItems]
    have first := (spells_compact item sound.1).bare
    exact first.itemBefore (spells_compactItems (next :: others) nofun (by simpa [holdsItems] using sound.2))

theorem spells_compactFields (fields : List (String × Json)) (more : fields ≠ [])
    (sound : holdsFields (fun _ => false) fields = true) : Spells (compactFields fields) (.members fields) := by
  match fields with
  | [] => exact absurd rfl more
  | [(name, v)] =>
    simp only [holdsFields, Bool.and_eq_true] at sound
    simp only [compactFields]
    exact .firstMember (spells_member spaces_nil name (spells_compact v sound.1).bare)
  | (name, v) :: next :: others =>
    simp only [holdsFields, Bool.and_eq_true] at sound
    simp only [compactFields]
    have first := spells_member spaces_nil name (spells_compact v sound.1).bare
    have longer := first.memberBefore
      (spells_compactFields (next :: others) nofun (by simpa [holdsFields] using sound.2))
    simpa only [List.nil_append, List.append_assoc, List.cons_append] using longer
end

-- Laid out documents: each part on a line of its own.

theorem newline_spaces (level : Nat) : Spaces (newline level) := by
  intro c present
  rcases List.mem_cons.mp present with rfl | later
  · rfl
  · rw [(List.mem_replicate.mp later).2]
    rfl

theorem layout_scalar {v : Json} (scalar : v.depth = 0) (level : Nat) : layout level v = compact v := by
  match v with
  | .null | .bool true | .bool false | .int z | .decimal n | .unpaired | .str s => simp only [layout, compact]
  | .arr items => simp [depth] at scalar
  | .obj fields => simp [depth] at scalar

theorem Spells.indented {v : Json} (value : Spells cs (.value v)) (level : Nat) :
    Spells (newline level ++ cs) (.element v) := by
  have spelled := Spells.element (newline_spaces level) value spaces_nil
  rwa [List.append_nil] at spelled

theorem Spells.spaced {v : Json} (value : Spells cs (.value v)) : Spells (' ' :: cs) (.element v) := by
  have blank : Spaces [' '] := List.forall_mem_singleton.mpr rfl
  have spelled := Spells.element blank value spaces_nil
  rwa [List.append_nil] at spelled

mutual
theorem spells_layout (level : Nat) (v : Json) (sound : v.IsExact) : Spells (layout level v) (.value v) := by
  match v with
  | .null | .bool _ | .int _ | .decimal _ | .unpaired | .str _ =>
    rw [layout_scalar rfl]
    exact spells_scalar rfl sound
  | .arr [] => exact .emptyArr spaces_nil
  | .arr (item :: items) =>
    have spelled := spells_layoutItems (level + 1) (item :: items) nofun (by simpa [IsExact, holds] using sound)
    simp only [layout]
    exact .arr (spelled.blanks nofun (newline_spaces level))
  | .obj [] => exact .emptyObj spaces_nil
  | .obj (field :: fields) =>
    have spelled := spells_layoutFields (level + 1) (field :: fields) nofun (by simpa [IsExact, holds] using sound)
    simp only [layout]
    exact .obj (spelled.blanks nofun (newline_spaces level))

theorem spells_layoutItems (level : Nat) (items : List Json) (more : items ≠ [])
    (sound : holdsItems (fun _ => false) items = true) : Spells (layoutItems level items) (.items items) := by
  match items with
  | [] => exact absurd rfl more
  | [item] =>
    simp only [holdsItems, Bool.and_eq_true] at sound
    simp only [layoutItems]
    exact .firstItem ((spells_layout level item sound.1).indented level)
  | item :: next :: others =>
    simp only [holdsItems, Bool.and_eq_true] at sound
    simp only [layoutItems]
    have first := (spells_layout level item sound.1).indented level
    exact first.itemBefore (spells_layoutItems level (next :: others) nofun (by simpa [holdsItems] using sound.2))

theorem spells_layoutFields (level : Nat) (fields : List (String × Json)) (more : fields ≠ [])
    (sound : holdsFields (fun _ => false) fields = true) : Spells (layoutFields level fields) (.members fields) := by
  match fields with
  | [] => exact absurd rfl more
  | [(name, v)] =>
    simp only [holdsFields, Bool.and_eq_true] at sound
    simp only [layoutFields]
    exact .firstMember (spells_member (newline_spaces level) name (spells_layout level v sound.1).spaced)
  | (name, v) :: next :: others =>
    simp only [holdsFields, Bool.and_eq_true] at sound
    simp only [layoutFields]
    have first := spells_member (newline_spaces level) name (spells_layout level v sound.1).spaced
    have longer := first.memberBefore
      (spells_layoutFields level (next :: others) nofun (by simpa [holdsFields] using sound.2))
    simpa only [List.append_assoc, List.cons_append] using longer
end

theorem document_toText {v : Json} (sound : v.IsExact) : Document (toText v) v := by
  unfold Document toText
  rw [String.toList_ofList]
  exact (spells_compact v sound).bare

theorem document_toPrettyText {v : Json} (sound : v.IsExact) : Document (toPrettyText v) v := by
  unfold Document toPrettyText
  rw [String.toList_ofList]
  exact (spells_layout 0 v sound).bare

end Harvester.Json
