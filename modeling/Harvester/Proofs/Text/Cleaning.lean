import Harvester.Proofs.Text.Spacing
namespace Harvester.Text

variable {c d : Char} {cs part : List Char} {decode : List Char → List Char}

def typographicQuotes : List Char := ['\u201c', '\u201d', '\u00ab', '\u00bb', '\u2018', '\u2019']

theorem plainQuote_of_typographic (quote : c ∈ typographicQuotes) : plainQuote c = '"' ∨ plainQuote c = '\'' := by
  simp only [typographicQuotes, List.mem_cons, List.not_mem_nil, or_false] at quote
  rcases quote with rfl | rfl | rfl | rfl | rfl | rfl
  · exact .inl rfl
  · exact .inl rfl
  · exact .inl rfl
  · exact .inl rfl
  · exact .inr rfl
  · exact .inr rfl

theorem plainQuote_of_plain (plain : c ∉ typographicQuotes) : plainQuote c = c := by
  have away (d : Char) (quote : d ∈ typographicQuotes) : c.toNat ≠ d.toNat := by
    intro same
    rw [Char.toNat_inj.mp same] at plain
    exact plain quote
  unfold plainQuote
  dsimp only
  rw [if_neg, if_neg]
  · rintro (same | same)
    · exact away '\u2018' (by decide) same
    · exact away '\u2019' (by decide) same
  · rintro (same | same | same | same)
    · exact away '\u201c' (by decide) same
    · exact away '\u201d' (by decide) same
    · exact away '\u00ab' (by decide) same
    · exact away '\u00bb' (by decide) same

theorem plainQuote_not_typographic (c : Char) : plainQuote c ∉ typographicQuotes := by
  by_cases quote : c ∈ typographicQuotes
  · rcases plainQuote_of_typographic quote with shown | shown <;> rw [shown] <;> decide
  · rw [plainQuote_of_plain quote]
    exact quote

theorem isBlank_of_typographic (quote : c ∈ typographicQuotes) : isBlank c = false := by
  have each : typographicQuotes.all (fun c => isBlank c == false) = true := rfl
  exact beq_iff_eq.mp (List.all_eq_true.mp each c quote)

-- No character but the ASCII quotes comes from another one.
theorem plainQuote_eq_iff (double : d ≠ '"') (single : d ≠ '\'') (plain : d ∉ typographicQuotes) :
    plainQuote c = d ↔ c = d := by
  by_cases quote : c ∈ typographicQuotes
  · constructor
    · intro same
      rcases plainQuote_of_typographic quote with shown | shown
      · exact absurd (same.symm.trans shown) double
      · exact absurd (same.symm.trans shown) single
    · rintro rfl
      exact absurd quote plain
  · rw [plainQuote_of_plain quote]

theorem Untagged.plainQuotes (free : Untagged cs) : Untagged (cs.map plainQuote) := by
  refine free.map ?_ ?_
  · intro c
    exact (plainQuote_eq_iff (by decide) (by decide) (by decide)).mp
  · intro c
    exact plainQuote_eq_iff (by decide) (by decide) (by decide)

-- How a text is shown, its length apart.
structure Tidy (cs : List Char) : Prop where
  untagged : Untagged cs
  spaced : Spaced cs
  start : ClearStart cs
  plain : ∀ c ∈ cs, c ∉ typographicQuotes

-- What would be shown if there were no limit.
def uncut (decode : List Char → List Char) (cs : List Char) : List Char :=
  trim (collapse ((stripTags false (decode cs)).map plainQuote))

theorem cleanWith_eq (decode : List Char → List Char) (cs : List Char) :
    cleanWith decode cs = (uncut decode cs).take textLimit := rfl

theorem uncut_tidy (decode : List Char → List Char) (cs : List Char) : Tidy (uncut decode cs) := by
  have inside := trim_within (collapse ((stripTags false (decode cs)).map plainQuote))
  refine ⟨?_, ?_, trim_clearStart _, ?_⟩
  · exact (stripTags_untagged false (decode cs)).plainQuotes.collapse.within inside
  · exact (collapse_spaced _).within inside
  · intro c present quote
    have before := (mem_collapse (isBlank_of_typographic quote) _).mp (inside.mem present)
    obtain ⟨d, _, rfl⟩ := List.mem_map.mp before
    exact plainQuote_not_typographic d quote

theorem Tidy.front (tidy : Tidy cs) (begins : part <+: cs) : Tidy part where
  untagged := tidy.untagged.within begins.isInfix
  spaced := tidy.spaced.within begins.isInfix
  start := tidy.start.front begins
  plain c present := tidy.plain c (begins.mem present)

theorem cleanWith_tidy (decode : List Char → List Char) (cs : List Char) : Tidy (cleanWith decode cs) := by
  have begins : cleanWith decode cs <+: uncut decode cs := List.take_prefix textLimit _
  exact (uncut_tidy decode cs).front begins

-- Whatever the entities stand for, also brackets: the text that is shown holds no tag, no blank but single spaces, none
-- at the start, and no typographic quote.
theorem cleanWith_normal_form (decode : List Char → List Char) (cs : List Char) :
    let text := cleanWith decode cs
    text.length ≤ 1500 ∧ Tidy text ∧
      ∀ before after, text = before ++ '<' :: after → after.head? = some '>' ∨ '>' ∉ after := by
  intro text
  have tidy : Tidy text := cleanWith_tidy decode cs
  exact ⟨List.length_take_le _ _, tidy, tidy.untagged.brackets⟩

-- Encoded tags go, a tag swallows the bracket that stands inside it, and what opens for nothing stays.
example : cleanWith decodeEntities "a&#60;b>b<<i>c> <><u".toList = "abc> <><u".toList := by decide +kernel

-- No step makes a blank visible.
theorem uncut_of_blank (blank : ∀ c ∈ decode cs, isBlank c = true) : uncut decode cs = [] := by
  refine trim_eq_nil_iff.mpr fun c present => ?_
  cases visible : isBlank c with
  | true => rfl
  | false =>
    obtain ⟨d, kept, same⟩ := List.mem_map.mp ((mem_collapse visible _).mp present)
    have blankBefore := blank d ((stripTags_sublist false (decode cs)).subset kept)
    have noQuote : d ∉ typographicQuotes := by
      intro quote
      rw [isBlank_of_typographic quote] at blankBefore
      cases blankBefore
    rw [← same, plainQuote_of_plain noQuote, blankBefore] at visible
    cases visible

-- Texts that are shown as they are, up to the limit.
theorem uncut_of_tidy (same : decode cs = cs) (tidy : Tidy cs) (stop : ClearEnd cs) : uncut decode cs = cs := by
  have quotes : cs.map plainQuote = cs := by
    have each : cs.map plainQuote = cs.map id :=
      List.map_congr_left fun c present => plainQuote_of_plain (tidy.plain c present)
    rw [each, List.map_id]
  unfold uncut
  rw [same, stripTags_of_untagged tidy.untagged, quotes, collapse_of_spaced tidy.spaced, trim_of_clear tidy.start stop]

theorem cleanWith_of_tidy (same : decode cs = cs) (tidy : Tidy cs) (stop : ClearEnd cs) :
    cleanWith decode cs = cs.take textLimit := by
  rw [cleanWith_eq, uncut_of_tidy same tidy stop]

theorem decodeEntities_of_plain (plain : '&' ∉ cs) : decodeEntities cs = cs := by
  unfold decodeEntities
  induction cs with
  | nil => rfl
  | cons c rest ih =>
    have other : c ≠ '&' := fun same => plain (same ▸ List.mem_cons_self)
    unfold decodeWith
    dsimp only
    rw [if_neg other, ih fun later => plain (List.mem_cons_of_mem c later)]

-- When entities are the only thing that decoding changes, a tidy text without any is shown as it is. So a text that was
-- shown once stays as it is, unless the limit cut it behind a word or it spells an entity.
theorem cleanWith_stable {decode : List Char → List Char} (plain : ∀ cs, '&' ∉ cs → decode cs = cs) :
    (∀ text, text.length ≤ 1500 → Tidy text → ClearEnd text → '&' ∉ text → cleanWith decode text = text) ∧
      ∀ cs, let text := cleanWith decode cs
        '&' ∉ text → text.getLast? ≠ some ' ' → cleanWith decode text = text := by
  have kept (text : List Char) (short : text.length ≤ 1500) (tidy : Tidy text) (stop : ClearEnd text)
      (free : '&' ∉ text) : cleanWith decode text = text := by
    rw [cleanWith_of_tidy (plain text free) tidy stop]
    exact List.take_of_length_le short
  refine ⟨kept, ?_⟩
  intro cs text free noSpace
  have tidy : Tidy text := cleanWith_tidy decode cs
  exact kept text (List.length_take_le _ _) tidy (tidy.spaced.clearEnd_iff.mpr noSpace) free

theorem cleanWith_stable_markup :
    let cs := "<p>&#8220;Hello&#8221;,&#160;&#160; world</p>\n".toList
    let text := cleanWith decodeEntities cs
    text = "\"Hello\", world".toList ∧ '&' ∉ text ∧ text.getLast? ≠ some ' ' ∧ cleanWith decodeEntities text = text := by
  intro cs text
  have shown : text = "\"Hello\", world".toList := by decide +kernel
  have free : '&' ∉ text := by
    rw [shown]
    decide
  have noSpace : text.getLast? ≠ some ' ' := by
    rw [shown]
    decide
  exact ⟨shown, free, noSpace, (cleanWith_stable (fun _ => decodeEntities_of_plain)).2 cs free noSpace⟩

-- The last character that is kept is the one before the limit, or else the last one of all.
theorem cleanWith_getLast? (decode : List Char → List Char) (cs : List Char) :
    (cleanWith decode cs).getLast? = (uncut decode cs)[1499]?.or (uncut decode cs).getLast? := by
  rw [cleanWith_eq, List.getLast?_take]
  rfl

theorem cleanWith_clearEnd_iff (decode : List Char → List Char) (cs : List Char) :
    ClearEnd (cleanWith decode cs) ↔ (uncut decode cs)[1499]? ≠ some ' ' := by
  rw [(cleanWith_tidy decode cs).spaced.clearEnd_iff, cleanWith_getLast?]
  cases (uncut decode cs)[1499]? with
  | none =>
    have last := (uncut_tidy decode cs).spaced.clearEnd_iff.mp (trim_clearEnd _)
    exact iff_of_true last (Option.some_ne_none ' ').symm
  | some d => exact Iff.rfl

-- Trimmed, or filled up to the limit with one space behind a word.
def Edged (cs : List Char) : Prop :=
  ClearStart cs ∧ (ClearEnd cs ∨ cs.length = 1500 ∧ ∃ kept, cs = kept ++ [' '] ∧ ClearEnd kept)

theorem cleanWith_edged (decode : List Char → List Char) (cs : List Char) : Edged (cleanWith decode cs) := by
  have tidy := cleanWith_tidy decode cs
  refine ⟨tidy.start, ?_⟩
  by_cases clear : ClearEnd (cleanWith decode cs)
  · exact .inl clear
  · have cut : (uncut decode cs)[1499]? = some ' ' := by
      rw [cleanWith_clearEnd_iff] at clear
      exact not_not.mp clear
    obtain ⟨long, _⟩ := List.getElem?_eq_some_iff.mp cut
    have length : (cleanWith decode cs).length = 1500 := by
      rw [cleanWith_eq, List.length_take]
      exact Nat.min_eq_left long
    have split : cleanWith decode cs = (uncut decode cs).take 1499 ++ [' '] := by
      rw [cleanWith_eq, show textLimit = 1499 + 1 from rfl, List.take_add_one, cut]
      rfl
    have spaced : Spaced ((uncut decode cs).take 1499) := tidy.spaced.within ⟨[], [' '], split.symm⟩
    refine .inr ⟨length, _, split, spaced.clearEnd_iff.mpr fun last => ?_⟩
    obtain ⟨others, whole⟩ := List.getLast?_eq_some_iff.mp last
    rw [whole, List.append_assoc] at split
    exact tidy.spaced.single ⟨others, [], by rw [split, List.append_nil]; rfl⟩

-- All that trimming takes away from such a text is the space at its end.
theorem Edged.trim_cases (edged : Edged cs) :
    (ClearEnd cs ∧ trim cs = cs) ∨ (¬ ClearEnd cs ∧ cs = trim cs ++ [' ']) := by
  obtain ⟨start, clear | ⟨_, kept, rfl, clear⟩⟩ := edged
  · exact .inl ⟨clear, trim_of_clear start clear⟩
  · refine .inr ⟨fun stop => ?_, ?_⟩
    · cases stop ' ' List.getLast?_concat
    · rw [trim_append_blank rfl, trim_of_clear (start.front (List.prefix_append kept [' '])) clear]

theorem Edged.eq_of_trim {as bs : List Char} (first : Edged as) (second : Edged bs) (same : trim as = trim bs)
    (ends : ClearEnd as ↔ ClearEnd bs) : as = bs := by
  rcases first.trim_cases with ⟨clear, whole⟩ | ⟨cut, whole⟩
  · rcases second.trim_cases with ⟨_, wholeToo⟩ | ⟨cut, _⟩
    · rw [← whole, same, wholeToo]
    · exact absurd (ends.mp clear) cut
  · rcases second.trim_cases with ⟨clear, _⟩ | ⟨_, wholeToo⟩
    · exact absurd (ends.mpr clear) cut
    · rw [whole, same, ← wholeToo]

theorem Edged.trim_eq_nil (edged : Edged cs) : trim cs = [] ↔ cs = [] := by
  constructor
  · intro nothing
    rcases edged.trim_cases with ⟨_, whole⟩ | ⟨_, whole⟩
    · exact whole.symm.trans nothing
    · rw [nothing] at whole
      rw [whole] at edged
      cases edged.1 ' ' rfl
  · rintro rfl
    rfl

end Harvester.Text
