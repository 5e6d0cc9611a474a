import Harvester.Proofs.Item.Edges
namespace Harvester

open Text

variable {s t : Option String} {raw other : RawItem} {e f : Feed.Entry}

-- Two texts that differ at most in the blanks around them. A missing text counts as an empty one.
def SameText (s t : Option String) : Prop := trimmed (s.getD "") = trimmed (t.getD "")

instance (s t : Option String) : Decidable (SameText s t) :=
  inferInstanceAs (Decidable (trimmed (s.getD "") = trimmed (t.getD "")))

theorem nonBlank?_eq (s : Option String) :
    nonBlank? s = if trimmed (s.getD "") = "" then none else some (trimmed (s.getD "")) := by
  cases s with
  | none => rfl
  | some u => simp only [nonBlank?, Option.getD_some, String.isEmpty_iff]

theorem SameText.nonBlank? (same : SameText s t) : nonBlank? s = nonBlank? t := by
  rw [nonBlank?_eq, nonBlank?_eq, same]

theorem nonBlank?_none (blank : ¬ Legible s) : nonBlank? s = none :=
  (nonBlank?_supplied s).missing.mpr (List.forall_mem_singleton.mpr blank)

theorem nonBlank?_some (legible : Legible s) : ∃ u, nonBlank? s = some u := by
  refine Option.ne_none_iff_exists'.mp fun missing => ?_
  exact List.forall_mem_singleton.mp ((nonBlank?_supplied s).missing.mp missing) legible

theorem SameText.legible (same : SameText s t) (legible : Legible t) : Legible s := by
  by_contra blank
  obtain ⟨u, drawn⟩ := nonBlank?_some legible
  rw [← same.nonBlank?, nonBlank?_none blank] at drawn
  cases drawn

-- A title as it is shown.
def Feed.Entry.shown (e : Feed.Entry) : String := (e.title.map clean).getD ""

theorem clean?_shown (e : Feed.Entry) : clean? e.title = if e.shown = "" then none else some e.shown := by
  unfold Feed.Entry.shown
  cases e.title with
  | none => rfl
  | some u =>
    unfold clean?
    dsimp only [Option.map_some, Option.getD_some]
    simp only [String.isEmpty_iff]

theorem shown_edged (e : Feed.Entry) : Edged e.shown.toList := by
  unfold Feed.Entry.shown
  cases e.title with
  | none => exact ⟨nofun, .inl nofun⟩
  | some u => exact clean_edged u

namespace RawItem

-- Two items of one kind that agree in what their source knows them by, up to the blanks around it: the first of the
-- texts and numbers of an id that is not blank. The repository of a release and the date of an entry are taken as they
-- stand.
inductive SameKey : RawItem → RawItem → Prop
  | release {r s : Release} (repo : r.repo = s.repo) (tag : SameText r.tagName s.tagName) :
      SameKey (.release r) (.release s)
  | event {e f : RepoEvent} (id : SameText e.id f.id) : SameKey (.event e) (.event f)
  | reddit {p q : RedditPost} (id : SameText p.id q.id) : SameKey (.reddit p) (.reddit q)
  | news {a b : NewsArticle} (url : SameText a.url b.url) : SameKey (.news a) (.news b)
  | competition {c d : Competition} (reference : SameText c.reference d.reference)
      (id : ¬ Legible c.reference → c.id = d.id) : SameKey (.competition c) (.competition d)
  | launch {l m : Launch} (id : SameText l.id m.id) : SameKey (.launch l) (.launch m)
  | article {a b : DevArticle} (id : a.id = b.id) : SameKey (.article a) (.article b)
  | round {r s : Round} (id : r.id = s.id) : SameKey (.round r) (.round s)
  | feed {e f : Feed.Entry} (guid : SameText e.guid f.guid) (link : ¬ Legible e.guid → SameText e.link f.link)
      (title : ¬ Legible e.guid → ¬ Legible e.link → SameText (some e.shown) (some f.shown))
      (date : ¬ Legible e.guid → ¬ Legible e.link → e.pubDate.getD "" = f.pubDate.getD "") :
      SameKey (.feed e) (.feed f)
  | contest {c d : Contest} (slug : SameText (some c.slug) (some d.slug)) : SameKey (.contest c) (.contest d)

-- Two entries known by their titles alone, of which the limit cuts just one behind a word.
inductive CutApart : RawItem → RawItem → Prop
  | feed {e f : Feed.Entry} (noGuid : ¬ Legible e.guid) (noLink : ¬ Legible e.link)
      (ends : ¬ (ClearEnd e.shown.toList ↔ ClearEnd f.shown.toList)) : CutApart (.feed e) (.feed f)

end RawItem

theorem entryId?_titled (noGuid : ¬ Legible e.guid) (noLink : ¬ Legible e.link) :
    Draft.entryId? e = if e.shown = "" then none else some (digest (e.shown ++ "|" ++ e.pubDate.getD "")) := by
  rw [Draft.entryId?, nonBlank?_none noGuid, nonBlank?_none noLink, clean?_shown]
  split <;> rfl

-- An entry with neither id nor link is known by its title and the date, if it has a title.
theorem normalize_titled (noGuid : ¬ Legible e.guid) (noLink : ¬ Legible e.link) (filled : e.shown ≠ "")
    (provider : Provider) (now : Instant) : ∃ item, normalize (.feed e) provider now = .ok item ∧
      item.externalId = digest (e.shown ++ "|" ++ e.pubDate.getD "") := by
  have id : (Draft.ofRaw (.feed e)).externalId = some (digest (e.shown ++ "|" ++ e.pubDate.getD "")) :=
    (entryId?_titled noGuid noLink).trans (if_neg filled)
  have called : (Draft.ofRaw (.feed e)).title = some e.shown := (clean?_shown e).trans (if_neg filled)
  obtain ⟨item, made⟩ := normalize_complete (id ▸ Option.some_ne_none _) (called ▸ Option.some_ne_none _) provider now
  exact ⟨item, made, Option.some.inj ((normalize_drawn made).externalId.symm.trans id)⟩

theorem shown_same (same : SameText (some e.shown) (some f.shown)) : trim e.shown.toList = trim f.shown.toList := by
  rw [← trimmed_toList, ← trimmed_toList]
  exact congrArg String.toList same

theorem shown_empty (same : SameText (some e.shown) (some f.shown)) : e.shown = "" ↔ f.shown = "" := by
  rw [← String.toList_eq_nil_iff, ← String.toList_eq_nil_iff, ← (shown_edged e).trim_eq_nil,
    ← (shown_edged f).trim_eq_nil, shown_same same]

theorem entryId?_same (same : (RawItem.feed e).SameKey (.feed f)) :
    Draft.entryId? e = Draft.entryId? f ∨
      (RawItem.feed e).CutApart (.feed f) ∧ Draft.entryId? e ≠ none ∧ Draft.entryId? f ≠ none := by
  cases same with
  | feed guids links titles dates =>
    by_cases noGuid : ¬ Legible e.guid
    · by_cases noLink : ¬ Legible e.link
      · have noGuidToo : ¬ Legible f.guid := fun given => noGuid (guids.legible given)
        have noLinkToo : ¬ Legible f.link := fun given => noLink ((links noGuid).legible given)
        have titles := titles noGuid noLink
        rw [entryId?_titled noGuid noLink, entryId?_titled noGuidToo noLinkToo, ← dates noGuid noLink]
        by_cases same : e.shown = f.shown
        · left
          rw [same]
        · right
          have filled : e.shown ≠ "" := fun empty => same (empty.trans ((shown_empty titles).mp empty).symm)
          have filledToo : f.shown ≠ "" := fun empty => filled ((shown_empty titles).mpr empty)
          rw [if_neg filled, if_neg filledToo]
          refine ⟨.feed noGuid noLink fun ends => same ?_, Option.some_ne_none _, Option.some_ne_none _⟩
          exact String.toList_injective ((shown_edged e).eq_of_trim (shown_edged f) (shown_same titles) ends)
      · obtain ⟨link, drawn⟩ := nonBlank?_some (not_not.mp noLink)
        left
        simp only [Draft.entryId?, ← guids.nonBlank?, ← (links noGuid).nonBlank?, nonBlank?_none noGuid, drawn,
          Option.none_or, Option.some_or]
    · obtain ⟨guid, drawn⟩ := nonBlank?_some (not_not.mp noGuid)
      left
      simp only [Draft.entryId?, ← guids.nonBlank?, drawn, Option.some_or]

-- Every kind of item draws its id from what identifies it, and from nothing else.
theorem ofRaw_externalId_same (same : raw.SameKey other) :
    (Draft.ofRaw raw).externalId = (Draft.ofRaw other).externalId ∨
      raw.CutApart other ∧ (Draft.ofRaw raw).externalId ≠ none ∧ (Draft.ofRaw other).externalId ≠ none := by
  cases same with
  | release repo tag =>
    left
    dsimp only [Draft.ofRaw, Draft.ofRelease]
    rw [repo, tag.nonBlank?]
  | event id => exact .inl id.nonBlank?
  | reddit id => exact .inl id.nonBlank?
  | news url => exact .inl (congrArg (Option.map digest) url.nonBlank?)
  | @competition c d reference number =>
    left
    dsimp only [Draft.ofRaw, Draft.ofCompetition]
    rw [← reference.nonBlank?]
    by_cases given : Legible c.reference
    · obtain ⟨u, drawn⟩ := nonBlank?_some given
      rw [drawn, Option.some_or, Option.some_or]
    · rw [number given]
  | launch id => exact .inl id.nonBlank?
  | article id => exact .inl (congrArg (Option.map fun n => toString n) id)
  | round id => exact .inl (congrArg (Option.map fun n => toString n) id)
  | feed guid link title date => exact entryId?_same (.feed guid link title date)
  | contest slug =>
    left
    dsimp only [Draft.ofRaw, Draft.ofContest]
    exact slug.nonBlank?

-- Items that agree in what identifies them are both refused for a missing id, or neither is; and their ids are the same
-- but for two entries known by their titles of which one ends in the space that the limit leaves behind a word. What an
-- entry with an id or a link of its own is called, and when it was written, does not matter.
theorem normalize_same_key (same : raw.SameKey other) (provider another : Provider) (now later : Instant) :
    (normalize raw provider now = .error ⟨provider, .externalId⟩ ↔
      normalize other another later = .error ⟨another, .externalId⟩) ∧
    ∀ item twin, normalize raw provider now = .ok item → normalize other another later = .ok twin →
      (item.externalId = twin.externalId ∨ raw.CutApart other) ∧
        ∀ e, raw = .feed e → Legible e.guid ∨ Legible e.link → item.externalId = twin.externalId := by
  have ids := ofRaw_externalId_same same
  constructor
  · rw [normalize_unidentified_iff, normalize_unidentified_iff]
    rcases ids with ids | ⟨_, given, givenToo⟩
    · rw [ids]
    · exact iff_of_false given givenToo
  · intro item twin made madeToo
    have drawn := (normalize_drawn made).externalId
    have drawnToo := (normalize_drawn madeToo).externalId
    have apart : item.externalId = twin.externalId ∨ raw.CutApart other := by
      rcases ids with ids | ⟨cut, _⟩
      · rw [drawn, drawnToo] at ids
        exact .inl (Option.some.inj ids)
      · exact .inr cut
    refine ⟨apart, fun e entry given => apart.resolve_right fun cut => ?_⟩
    subst entry
    cases cut with
    | feed noGuid noLink _ => exact given.elim noGuid noLink

-- A title written in two ways, numbers that differ behind one reference, and an entry that was rewritten.
theorem normalize_same_key_edited :
    let draft : Feed.Entry := ⟨"blog", some "<b>News</b> &#233;", some " ", none, some "a", none, some "1 May", none, []⟩
    let final : Feed.Entry := ⟨"mail", some "News \u00e9 ", none, some "", none, some "b", some "1 May", none, ["c"]⟩
    let first : Feed.Entry := ⟨"blog", some "News", none, some "1 ", none, none, some "1 May", none, []⟩
    let second : Feed.Entry := ⟨"blog", some "Old news", none, some "\t1", none, none, none, some .epoch, []⟩
    let cup : Competition := ⟨some 7, some " cup", some "Cup", none, none, none, none, none, none, []⟩
    let past : Competition := ⟨some 8, some "cup\n", some "Old cup", none, none, none, none, none, none, []⟩
    (∃ item twin, normalize (.feed draft) .rss .epoch = .ok item ∧ normalize (.feed final) .rss .epoch = .ok twin ∧
      item.externalId = twin.externalId) ∧
    (∃ item twin, normalize (.competition cup) .kaggle .epoch = .ok item ∧
      normalize (.competition past) .kaggle .epoch = .ok twin ∧ item.externalId = twin.externalId) ∧
    ∃ item twin, normalize (.feed first) .rss .epoch = .ok item ∧ normalize (.feed second) .rss .epoch = .ok twin ∧
      item.externalId = twin.externalId := by
  intro draft final first second cup past
  refine ⟨?_, ?_, ?_⟩
  · obtain ⟨item, made⟩ := @normalize_complete (.feed draft) (by decide +kernel) (by decide +kernel) .rss .epoch
    obtain ⟨twin, madeToo⟩ := @normalize_complete (.feed final) (by decide +kernel) (by decide +kernel) .rss .epoch
    have shown : draft.shown = final.shown := by decide +kernel
    have same : (RawItem.feed draft).SameKey (.feed final) := by
      refine .feed rfl (fun _ => by decide +kernel) (fun _ _ => congrArg trimmed shown) (fun _ _ => rfl)
    have apart := ((normalize_same_key same .rss .rss .epoch .epoch).2 item twin made madeToo).1
    refine ⟨item, twin, made, madeToo, apart.resolve_right ?_⟩
    rintro ⟨_, _, ends⟩
    exact ends (by rw [shown])
  · obtain ⟨item, made⟩ :=
      @normalize_complete (.competition cup) (by decide +kernel) (by decide +kernel) .kaggle .epoch
    obtain ⟨twin, madeToo⟩ :=
      @normalize_complete (.competition past) (by decide +kernel) (by decide +kernel) .kaggle .epoch
    have given : Legible cup.reference := by decide +kernel
    have same : (RawItem.competition cup).SameKey (.competition past) :=
      .competition (by decide +kernel) fun blank => absurd given blank
    have apart := ((normalize_same_key same .kaggle .kaggle .epoch .epoch).2 item twin made madeToo).1
    refine ⟨item, twin, made, madeToo, apart.resolve_right ?_⟩
    rintro ⟨⟩
  · obtain ⟨item, made⟩ := @normalize_complete (.feed first) (by decide +kernel) (by decide +kernel) .rss .epoch
    obtain ⟨twin, madeToo⟩ := @normalize_complete (.feed second) (by decide +kernel) (by decide +kernel) .rss .epoch
    have given : Legible first.guid := by decide +kernel
    have same : (RawItem.feed first).SameKey (.feed second) :=
      .feed (by decide +kernel) (fun blank => absurd given blank) (fun blank => absurd given blank)
        (fun blank => absurd given blank)
    have owned := ((normalize_same_key same .rss .rss .epoch .epoch).2 item twin made madeToo).2
    exact ⟨item, twin, made, madeToo, owned first rfl (.inl given)⟩

namespace Digest

-- The bytes of a title of 1499 times the letter, and of what ends the hashed text.
def lettered (rest : List UInt8) : List UInt8 := List.replicate 1499 0x61 ++ rest

theorem sha256_lettered {rest last : List UInt8} (whole : last.length = 64)
    (padded : pad (lettered rest) = List.replicate (64 * 23) 0x61 ++ last) :
    sha256 (lettered rest) = (List.replicate 23 (List.replicate 64 0x61) ++ [last]).foldl absorb startWords := by
  have enough : 23 < (List.replicate (64 * 23) (0x61 : UInt8) ++ last).length := by
    rw [List.length_append, List.length_replicate, whole]
    decide
  rw [sha256, padded, pieces_replicate 0x61 whole (by decide) enough]

-- The digests of the one and of the other: 23 equal blocks of letters, and a block that ends the title with the space or
-- without it.
theorem digest_cut_apart {s t : String} (spaced : Text.utf8 s = lettered [0x20, 0x7c])
    (bare : Text.utf8 t = lettered [0x7c]) : digest s ≠ digest t := by
  let spacedEnd : List UInt8 :=
    List.replicate 27 0x61 ++ 0x20 :: 0x7c :: 0x80 :: List.replicate 26 0 ++ lengthBytes (1501 * 8)
  let bareEnd : List UInt8 := List.replicate 27 0x61 ++ 0x7c :: 0x80 :: List.replicate 27 0 ++ lengthBytes (1500 * 8)
  intro same
  have same := String.ofList_injective same
  rw [spaced, bare, @sha256_lettered [0x20, 0x7c] spacedEnd (by decide +kernel) (by decide +kernel),
    @sha256_lettered [0x7c] bareEnd (by decide +kernel) (by decide +kernel)] at same
  exact absurd same (by decide +kernel)

end Digest

-- A title of 1499 letters, and the same title with a word behind it: of the longer one the space before the word is kept.
theorem normalize_cut_apart :
    let title := List.replicate 1499 'a'
    let whole : Feed.Entry := ⟨"blog", some (String.ofList title), none, none, none, none, none, none, []⟩
    let longer : Feed.Entry := { whole with title := some (String.ofList (title ++ [' ', 'b'])) }
    (RawItem.feed whole).SameKey (.feed longer) ∧
      ∃ item twin, normalize (.feed whole) .rss .epoch = .ok item ∧ normalize (.feed longer) .rss .epoch = .ok twin ∧
        item.externalId ≠ twin.externalId := by
  intro title whole longer
  have shown : whole.shown.toList = title := by
    change (clean (String.ofList title)).toList = _
    rw [clean_toList, String.toList_ofList]
    decide +kernel
  have shownToo : longer.shown.toList = title ++ [' '] := by
    change (clean (String.ofList (title ++ [' ', 'b']))).toList = _
    rw [clean_toList, String.toList_ofList]
    decide +kernel
  have filled : whole.shown ≠ "" := fun empty => by
    rw [empty] at shown
    exact List.cons_ne_nil _ _ shown.symm
  have filledToo : longer.shown ≠ "" := fun empty => by
    rw [empty] at shownToo
    exact List.cons_ne_nil _ _ shownToo.symm
  obtain ⟨item, made, drawn⟩ := @normalize_titled whole nofun nofun filled .rss .epoch
  obtain ⟨twin, madeToo, drawnToo⟩ := @normalize_titled longer nofun nofun filledToo .rss .epoch
  have same : (RawItem.feed whole).SameKey (.feed longer) := by
    refine .feed rfl (fun _ => rfl) (fun _ _ => ?_) (fun _ _ => rfl)
    change trimmed whole.shown = trimmed longer.shown
    apply String.toList_injective
    rw [trimmed_toList, trimmed_toList, shown, shownToo]
    exact (trim_append_blank (by decide) title).symm
  refine ⟨same, item, twin, made, madeToo, ?_⟩
  have bare : utf8 (whole.shown ++ "|" ++ whole.pubDate.getD "") = Digest.lettered [0x7c] := by
    rw [utf8, String.toList_append, String.toList_append, shown]
    decide +kernel
  have spaced : utf8 (longer.shown ++ "|" ++ longer.pubDate.getD "") = Digest.lettered [0x20, 0x7c] := by
    rw [utf8, String.toList_append, String.toList_append, shownToo]
    decide +kernel
  rw [drawn, drawnToo]
  exact (Digest.digest_cut_apart spaced bare).symm

end Harvester
