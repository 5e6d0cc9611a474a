import Harvester.Proofs.Item.Drawn
import Harvester.Proofs.Text.Cleaning
import Harvester.Proofs.Text.Digest
namespace Harvester

open Text

variable {s t : String} {field other : Option String} {sources more : List (Option String)} {raw : RawItem}

-- At least one character is not blank.
def HasText (s : String) : Prop := ∃ c ∈ s.toList, isBlank c = false

def Legible (s : Option String) : Prop := ∃ t, s = some t ∧ HasText t

instance (s : String) : Decidable (HasText s) := List.decidableBEx (fun c => isBlank c = false) s.toList

theorem legible_some : Legible (some t) ↔ HasText t := by
  constructor
  · rintro ⟨u, same, legible⟩
    cases same
    exact legible
  · intro legible
    exact ⟨t, rfl, legible⟩

theorem not_legible_none : ¬ Legible none := by
  rintro ⟨u, same, _⟩
  cases same

instance (s : Option String) : Decidable (Legible s) :=
  match s with
  | none => .isFalse not_legible_none
  | some _ => decidable_of_iff _ legible_some.symm

theorem HasText.behind (legible : HasText t) (s : String) : HasText (s ++ t) := by
  obtain ⟨c, present, visible⟩ := legible
  refine ⟨c, ?_, visible⟩
  rw [String.toList_append]
  exact List.mem_append_right _ present

theorem HasText.before (legible : HasText s) (t : String) : HasText (s ++ t) := by
  obtain ⟨c, present, visible⟩ := legible
  refine ⟨c, ?_, visible⟩
  rw [String.toList_append]
  exact List.mem_append_left _ present

theorem intText_visible (n : Int) : ∃ c ∈ Json.intText n, isBlank c = false := by
  rcases Json.intText_cases n with ⟨m, _, shown⟩ | ⟨m, _, _, shown⟩
  · rw [shown]
    obtain ⟨c, present⟩ := List.exists_mem_of_length_pos (Nat.length_toDigits_pos (b := 10) (n := m))
    exact ⟨c, present, isBlank_digit (isDigit_of_mem present)⟩
  · rw [shown]
    exact ⟨'-', List.mem_cons_self, by decide⟩

theorem hasText_int (n : Int) : HasText (toString n) := intText_visible n

theorem hasText_digest (s : String) : HasText (digest s) := by
  have words : (Digest.sha256 (utf8 s)).length = 8 := Digest.foldl_absorb_length _ _ rfl
  cases sum : Digest.sha256 (utf8 s) with
  | nil =>
    rw [sum] at words
    cases words
  | cons w others =>
    have shown : ∀ n < 16, isBlank (hexDigit n) = false := by decide
    unfold HasText digest
    rw [sum, String.toList_ofList]
    refine ⟨hexDigit (w.toNat / Nat.pow 16 7 % 16), ?_, shown _ (Nat.mod_lt _ (by decide))⟩
    exact List.mem_append_left _ List.mem_cons_self

theorem hasText_of_clearStart (clear : ClearStart t.toList) (filled : t ≠ "") : HasText t := by
  cases spelled : t.toList with
  | nil => exact absurd (String.toList_eq_nil_iff.mp spelled) filled
  | cons c rest =>
    unfold HasText
    rw [spelled] at clear ⊢
    exact ⟨c, List.mem_cons_self, clear c rfl⟩

theorem trimmed_toList (s : String) : (trimmed s).toList = trim s.toList := String.toList_ofList

theorem clean_toList (s : String) : (clean s).toList = cleanWith decodeEntities s.toList := String.toList_ofList

theorem trimmed_hasText (filled : trimmed s ≠ "") : HasText (trimmed s) := by
  refine hasText_of_clearStart ?_ filled
  rw [trimmed_toList]
  exact trim_clearStart _

theorem hasText_trimmed : HasText (trimmed s) ↔ HasText s := by
  constructor
  · rintro ⟨c, present, visible⟩
    rw [trimmed_toList] at present
    exact ⟨c, (trim_within _).mem present, visible⟩
  · rintro ⟨c, present, visible⟩
    refine trimmed_hasText fun empty => ?_
    have nothing : trim s.toList = [] := by
      rw [← trimmed_toList, empty]
      rfl
    rw [trim_eq_nil_iff.mp nothing c present] at visible
    cases visible

theorem clean_hasText (filled : clean s ≠ "") : HasText (clean s) := by
  refine hasText_of_clearStart ?_ filled
  rw [clean_toList]
  exact (cleanWith_tidy _ _).start

-- Blanks spell no entity and no tag, and all of them are trimmed.
theorem clean_blank (blank : ¬ HasText s) : clean s = "" := by
  have all : ∀ c ∈ s.toList, isBlank c = true := by
    intro c present
    cases visible : isBlank c with
    | true => rfl
    | false => exact absurd ⟨c, present, visible⟩ blank
  have plain : decodeEntities s.toList = s.toList :=
    decodeEntities_of_plain fun present => Bool.false_ne_true (all '&' present)
  rw [← plain] at all
  apply String.toList_eq_nil_iff.mp
  rw [clean_toList, cleanWith_eq, uncut_of_blank all]
  rfl

-- A field of a draft and the texts it is drawn from: it has text if one of them has, and is missing otherwise.
structure Supplied (field : Option String) (sources : List (Option String)) : Prop where
  legible : ∀ t, field = some t → HasText t
  missing : field = none ↔ ∀ s ∈ sources, ¬ Legible s

theorem Supplied.or (first : Supplied field sources) (second : Supplied other more) :
    Supplied (field.or other) (sources ++ more) := by
  constructor
  · intro t drawn
    cases field with
    | none => exact second.legible t drawn
    | some u => exact first.legible t drawn
  · rw [Option.or_eq_none_iff, first.missing, second.missing, List.forall_mem_append]

theorem Supplied.map (supplied : Supplied field sources) {f : String → String} (keeps : ∀ t, HasText t → HasText (f t)) :
    Supplied (field.map f) sources := by
  constructor
  · intro t drawn
    obtain ⟨u, from_, rfl⟩ := Option.map_eq_some_iff.mp drawn
    exact keeps u (supplied.legible u from_)
  · rw [Option.map_eq_none_iff, supplied.missing]

theorem supplied_self (legible : ∀ t, field = some t → HasText t) : Supplied field [field] := by
  refine ⟨legible, ?_⟩
  rw [List.forall_mem_singleton]
  cases field with
  | none => exact iff_of_true rfl not_legible_none
  | some t => exact iff_of_false (Option.some_ne_none t) (not_not_intro (legible_some.mpr (legible t rfl)))

theorem supplied_none : Supplied none [none] := by
  refine supplied_self fun t drawn => ?_
  cases drawn

-- A text that is changed, and kept when something is left of it.
theorem kept_supplied {f : String → String} (full : ∀ t, f t ≠ "" → HasText (f t)) (s : Option String) :
    Supplied (s.bind fun t => if (f t).isEmpty then none else some (f t)) [s.map f] := by
  cases s with
  | none => exact supplied_none
  | some t =>
    rw [Option.bind_some, Option.map_some]
    by_cases empty : f t = ""
    · rw [empty]
      constructor
      · intro u drawn
        cases drawn
      · rw [List.forall_mem_singleton, legible_some]
        refine iff_of_true rfl ?_
        rintro ⟨c, present, _⟩
        cases present
    · rw [if_neg fun nothing => empty (String.isEmpty_iff.mp nothing)]
      refine supplied_self fun u drawn => ?_
      rw [← Option.some.inj drawn]
      exact full t empty

theorem nonBlank?_supplied (s : Option String) : Supplied (nonBlank? s) [s] := by
  cases s with
  | none => exact supplied_none
  | some t =>
    have supplied := kept_supplied (fun t => trimmed_hasText (s := t)) (some t)
    rw [Option.bind_some, Option.map_some] at supplied
    unfold nonBlank?
    refine ⟨supplied.legible, supplied.missing.trans ?_⟩
    rw [List.forall_mem_singleton, List.forall_mem_singleton, legible_some, legible_some, hasText_trimmed]

theorem clean?_supplied (s : Option String) : Supplied (clean? s) [s.map clean] := by
  cases s with
  | none => exact supplied_none
  | some t =>
    have supplied := kept_supplied (fun t => clean_hasText (s := t)) (some t)
    rw [Option.bind_some] at supplied
    unfold clean?
    exact supplied

theorem number_supplied (n : Option Int) : Supplied (n.map fun n => toString n) [n.map fun n => toString n] := by
  refine supplied_self fun t drawn => ?_
  obtain ⟨m, _, rfl⟩ := Option.map_eq_some_iff.mp drawn
  exact hasText_int m

namespace RawItem

-- The texts an id is drawn from, the first of them that has text.
def idTexts : RawItem → List (Option String)
  | .release r => [r.tagName]
  | .event e => [e.id]
  | .reddit p => [p.id]
  | .news a => [a.url]
  | .competition c => [c.reference, c.id.map fun n => toString n]
  | .launch l => [l.id]
  | .article a => [a.id.map fun n => toString n]
  | .round r => [r.id.map fun n => toString n]
  | .feed e => [e.guid, e.link, e.title.map clean]
  | .contest c => [some c.slug]

-- The texts a title is drawn from, as they are shown.
def titleTexts : RawItem → List (Option String)
  | .release r => [r.name.map clean, r.tagName]
  | .event e => [e.kind]
  | .reddit p => [p.title.map clean]
  | .news a => [a.title.map clean]
  | .competition c => [c.title.map clean]
  | .launch l => [l.name.map clean]
  | .article a => [a.title.map clean]
  | .round r => [r.name.map clean]
  | .feed e => [e.title.map clean]
  | .contest c => [(some c.title).map clean]

-- The kind of an event is the one text that is used without a look at it.
def BlankKind : RawItem → Prop
  | .event e => ∃ kind, e.kind = some kind ∧ ¬ HasText kind
  | _ => False

end RawItem

theorem ofRaw_externalId (raw : RawItem) : Supplied (Draft.ofRaw raw).externalId raw.idTexts := by
  cases raw with
  | release r => exact (nonBlank?_supplied r.tagName).map fun t legible => legible.behind (r.repo ++ "@")
  | event e => exact nonBlank?_supplied e.id
  | reddit p => exact nonBlank?_supplied p.id
  | news a => exact (nonBlank?_supplied a.url).map fun t _ => hasText_digest t
  | competition c => exact (nonBlank?_supplied c.reference).or (number_supplied c.id)
  | launch l => exact nonBlank?_supplied l.id
  | article a => exact number_supplied a.id
  | round r => exact number_supplied r.id
  | feed e =>
    have digested := (clean?_supplied e.title).map fun t _ => hasText_digest (t ++ "|" ++ e.pubDate.getD "")
    exact ((nonBlank?_supplied e.guid).or (nonBlank?_supplied e.link)).or digested
  | contest c =>
    dsimp only [Draft.ofRaw, Draft.ofContest, RawItem.idTexts]
    exact nonBlank?_supplied (some c.slug)

theorem eventTitle_supplied {kind : Option String} (filled : ∀ k, kind = some k → HasText k) (repo : Option String) :
    Supplied (Draft.eventTitle kind repo) [kind] := by
  cases kind with
  | none => exact supplied_none
  | some k =>
    have legible := filled k rfl
    cases repo with
    | none => exact supplied_self fun t drawn => Option.some.inj drawn ▸ legible
    | some r =>
      refine ⟨fun t drawn => ?_, ?_⟩
      · rw [← Option.some.inj drawn]
        exact (legible.before " on ").before r
      · rw [List.forall_mem_singleton]
        exact iff_of_false (Option.some_ne_none _) (not_not_intro (legible_some.mpr legible))

theorem ofRaw_title (named : ¬ raw.BlankKind) : Supplied (Draft.ofRaw raw).title raw.titleTexts := by
  cases raw with
  | release r => exact (clean?_supplied r.name).or (nonBlank?_supplied r.tagName)
  | event e => exact eventTitle_supplied (fun k given => by_contra fun blank => named ⟨k, given, blank⟩) e.repo
  | reddit p => exact clean?_supplied p.title
  | news a => exact clean?_supplied a.title
  | competition c => exact clean?_supplied c.title
  | launch l => exact clean?_supplied l.name
  | article a => exact clean?_supplied a.title
  | round r => exact clean?_supplied r.name
  | feed e => exact clean?_supplied e.title
  | contest c =>
    dsimp only [Draft.ofRaw, Draft.ofContest, RawItem.titleTexts]
    exact clean?_supplied (some c.title)

-- With a repository the title has text, whatever the kind is.
theorem ofRaw_title_hasText (drawn : (Draft.ofRaw raw).title = some t) :
    HasText t ∨ ∃ e, raw = .event e ∧ raw.BlankKind ∧ e.repo = none := by
  by_cases named : raw.BlankKind
  · cases raw with
    | event e =>
      obtain ⟨k, given, _⟩ := id named
      cases repo : e.repo with
      | none => exact .inr ⟨e, rfl, named, repo⟩
      | some r =>
        have shown : (Draft.ofRaw (.event e)).title = some (k ++ " on " ++ r) := by
          change Draft.eventTitle e.kind e.repo = _
          rw [given, repo]
          rfl
        have on : HasText " on " := ⟨'o', by decide, by decide⟩
        rw [shown] at drawn
        rw [← Option.some.inj drawn]
        exact .inl ((on.behind k).before r)
    | release | reddit | news | competition | launch | article | round | feed | contest => exact named.elim
  · exact .inl ((ofRaw_title named).legible t drawn)

-- An item has an id and a title with text in them, and is refused when all the texts they could come from are blank.
-- Only an event without a repository takes a blank kind for its title.
theorem normalize_required (raw : RawItem) (provider : Provider) (fetchedAt : Instant) :
    (∀ item, normalize raw provider fetchedAt = .ok item → HasText item.externalId ∧
      (HasText item.title ∨ ∃ e, raw = .event e ∧ raw.BlankKind ∧ e.repo = none)) ∧
    ((∀ s ∈ raw.idTexts, ¬ Legible s) → normalize raw provider fetchedAt = .error ⟨provider, .externalId⟩) ∧
    ((∃ s ∈ raw.idTexts, Legible s) → ¬ raw.BlankKind →
      ((∀ s ∈ raw.titleTexts, ¬ Legible s) → normalize raw provider fetchedAt = .error ⟨provider, .title⟩) ∧
      ((∃ s ∈ raw.titleTexts, Legible s) → ∃ item, normalize raw provider fetchedAt = .ok item)) ∧
    ∀ s, ¬ HasText s → clean s = "" := by
  have ids := ofRaw_externalId raw
  refine ⟨?_, ?_, ?_, fun s => clean_blank⟩
  · intro item made
    have drawn := normalize_drawn made
    exact ⟨ids.legible _ drawn.externalId, ofRaw_title_hasText drawn.title⟩
  · intro blank
    exact normalize_unidentified (ids.missing.mpr blank) provider fetchedAt
  · rintro ⟨s, source, legible⟩ named
    have titles := ofRaw_title named
    have identified : (Draft.ofRaw raw).externalId ≠ none := fun missing => ids.missing.mp missing s source legible
    constructor
    · intro blank
      exact normalize_untitled identified (titles.missing.mpr blank) provider fetchedAt
    · rintro ⟨u, sourceToo, legibleToo⟩
      exact normalize_complete identified (fun missing => titles.missing.mp missing u sourceToo legibleToo) provider
        fetchedAt

-- An id from a number where the reference is blank, a title of nothing but markup, and an entry without id, link or
-- title.
theorem normalize_required_blanks :
    let cup : RawItem := .competition ⟨some 7, some " ", some "<b> </b>Cup", none, none, none, none, none, none, []⟩
    let untitled : RawItem := .article ⟨some 7, some "<br/>&#160;", none, none, none, [], none⟩
    let anonymous : RawItem := .feed ⟨"blog", some "<br/>", some "", some " ", none, none, none, none, []⟩
    (∃ item, normalize cup .kaggle .epoch = .ok item ∧ HasText item.externalId ∧ HasText item.title) ∧
      normalize untitled .devTo .epoch = .error ⟨.devTo, .title⟩ ∧
      normalize anonymous .rss .epoch = .error ⟨.rss, .externalId⟩ := by
  intro cup untitled anonymous
  refine ⟨?_, ?_, ?_⟩
  · obtain ⟨filled, _, accepted, _⟩ := normalize_required cup .kaggle .epoch
    have identified : ∃ s ∈ cup.idTexts, Legible s := by decide +kernel
    have titled : ∃ s ∈ cup.titleTexts, Legible s := by decide +kernel
    obtain ⟨item, made⟩ := (accepted identified id).2 titled
    obtain ⟨externalId, title⟩ := filled item made
    refine ⟨item, made, externalId, title.resolve_right ?_⟩
    rintro ⟨e, other, _⟩
    change RawItem.competition _ = .event e at other
    cases other
  · obtain ⟨_, _, rejected, _⟩ := normalize_required untitled .devTo .epoch
    have identified : ∃ s ∈ untitled.idTexts, Legible s := by decide +kernel
    have blank : ∀ s ∈ untitled.titleTexts, ¬ Legible s := by decide +kernel
    exact (rejected identified id).1 blank
  · have blank : ∀ s ∈ anonymous.idTexts, ¬ Legible s := by decide +kernel
    exact (normalize_required anonymous .rss .epoch).2.1 blank

theorem normalize_blank_kind :
    ∃ item, normalize (.event ⟨some "1", some " ", none, none, none, .null⟩) .github .epoch = .ok item ∧
      ¬ HasText item.title :=
  ⟨_, rfl, by decide⟩

end Harvester
