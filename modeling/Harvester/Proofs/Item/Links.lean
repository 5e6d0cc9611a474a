import Harvester.Proofs.Item.SameKey
namespace Harvester

open Text

variable {s : String} {text link : Option String} {raw : RawItem} {provider : Provider} {now : Instant} {item : Item}

-- A link that says by which protocol it is followed.
def Absolute (url : String) : Prop := "http://".toList <+: url.toList ∨ "https://".toList <+: url.toList

instance (url : String) : Decidable (Absolute url) :=
  inferInstanceAs (Decidable ("http://".toList <+: url.toList ∨ "https://".toList <+: url.toList))

namespace RawItem

-- The link that a source sends with an item.
def ownLink : RawItem → Option String
  | .release r => r.htmlUrl
  | .event _ => none
  | .reddit p => p.url
  | .news a => a.url
  | .competition c => c.url
  | .launch l => l.url
  | .article a => a.url
  | .round _ => none
  | .feed e => e.link
  | .contest c => some c.url

-- The items whose link is put together, and the text it is made of, if there is one: the repository of an event, the path
-- of a post, the number of a contest, and the reference of a competition that has no link.
inductive LinkedBy : RawItem → Option String → Prop
  | event {e : RepoEvent} : LinkedBy (.event e) e.repo
  | reddit {p : RedditPost} (posted : Legible p.permalink) : LinkedBy (.reddit p) (nonBlank? p.permalink)
  | competition {c : Competition} (unlinked : ¬ Legible c.url) : LinkedBy (.competition c) (nonBlank? c.reference)
  | round {r : Round} : LinkedBy (.round r) (r.id.map fun n => toString n)

-- A reference that begins like a link without being one.
def TakenForLink : RawItem → Prop
  | .competition c => ∃ reference, nonBlank? c.reference = some reference ∧ "http".toList <+: reference.toList ∧
      ¬ Absolute reference
  | _ => False

end RawItem

theorem Absolute.append (absolute : Absolute s) (t : String) : Absolute (s ++ t) := by
  unfold Absolute at absolute ⊢
  rw [String.toList_append]
  rcases absolute with plain | secure
  · exact .inl (plain.trans (List.prefix_append _ _))
  · exact .inr (secure.trans (List.prefix_append _ _))

theorem roundLink_absolute (gym : Bool) (id : Int) : Absolute (Draft.roundLink gym id) := by
  have site : Absolute "https://codeforces.com/" := by decide
  exact ((site.append _).append _).append _

theorem competitionLink_eq (reference : String) : Draft.competitionLink reference =
    if "http".toList <+: reference.toList then reference else "https://www.kaggle.com/competitions/" ++ reference := by
  simp [Draft.competitionLink, startsWith]

theorem competitionLink_absolute (reference : String) : Absolute (Draft.competitionLink reference) ↔
    ("http".toList <+: reference.toList → Absolute reference) := by
  rw [competitionLink_eq]
  by_cases begins : "http".toList <+: reference.toList
  · rw [if_pos begins]
    exact ⟨fun absolute _ => absolute, fun absolute => absolute begins⟩
  · have site : Absolute "https://www.kaggle.com/competitions/" := by decide
    rw [if_neg begins]
    exact iff_of_true (site.append reference) fun http => absurd http begins

-- Where a link is always absolute, only its text may be missing.
theorem made_absolute {make : α → String} {source : Option α} (absolute : ∀ a, Absolute (make a))
    (drawn : source.map make = link) :
    (link = none ↔ source = none) ∧ ∀ url, link = some url → Absolute url := by
  rw [← drawn]
  refine ⟨Option.map_eq_none_iff, ?_⟩
  intro url given
  obtain ⟨a, _, shown⟩ := Option.map_eq_some_iff.mp given
  rw [← shown]
  exact absolute a

theorem ofRaw_url_built (built : raw.LinkedBy text) :
    ((Draft.ofRaw raw).url = none ↔ text = none) ∧
    ∀ url, (Draft.ofRaw raw).url = some url →
      (Absolute url ↔ ¬ raw.TakenForLink) ∧ (raw.TakenForLink → text = some url) := by
  cases built with
  | @event e =>
    have site : Absolute "https://github.com/" := by decide
    have made : e.repo.map (fun repo => "https://github.com/" ++ repo) = (Draft.ofRaw (.event e)).url := rfl
    obtain ⟨present, absolute⟩ := made_absolute site.append made
    refine ⟨present, ?_⟩
    intro url given
    exact ⟨iff_of_true (absolute url given) id, False.elim⟩
  | @reddit p posted =>
    obtain ⟨path, legible⟩ := nonBlank?_some posted
    have site : Absolute "https://www.reddit.com" := by decide
    have made : (Draft.ofRaw (.reddit p)).url = some ("https://www.reddit.com" ++ path) := by
      simp [Draft.ofRaw, Draft.ofReddit, legible]
    rw [legible, made]
    refine ⟨by simp, ?_⟩
    intro url given
    cases given
    exact ⟨iff_of_true (site.append path) id, False.elim⟩
  | @competition c unlinked =>
    have made : (Draft.ofRaw (.competition c)).url = (nonBlank? c.reference).map Draft.competitionLink := by
      simp [Draft.ofRaw, Draft.ofCompetition, nonBlank?_none unlinked]
    cases found : nonBlank? c.reference with
    | none => simp [made, found]
    | some reference =>
      have taken : (RawItem.competition c).TakenForLink ↔
          "http".toList <+: reference.toList ∧ ¬ Absolute reference := by
        simp [RawItem.TakenForLink, found]
      rw [made, found]
      refine ⟨by simp, ?_⟩
      intro url given
      cases given
      rw [competitionLink_absolute, taken]
      refine ⟨not_and_not_right.symm, ?_⟩
      rintro ⟨begins, _⟩
      rw [competitionLink_eq, if_pos begins]
  | @round r =>
    have made : r.id.map (Draft.roundLink r.gym) = (Draft.ofRaw (.round r)).url := rfl
    obtain ⟨present, absolute⟩ := made_absolute (roundLink_absolute r.gym) made
    refine ⟨by simp [present], ?_⟩
    intro url given
    exact ⟨iff_of_true (absolute url given) id, False.elim⟩

theorem ofRaw_url_own (unbuilt : ∀ text, ¬ raw.LinkedBy text) : (Draft.ofRaw raw).url = nonBlank? raw.ownLink := by
  cases raw with
  | event e => exact absurd .event (unbuilt _)
  | round r => exact absurd .round (unbuilt _)
  | reddit p =>
    by_cases posted : Legible p.permalink
    · exact absurd (.reddit posted) (unbuilt _)
    · simp [Draft.ofRaw, Draft.ofReddit, RawItem.ownLink, nonBlank?_none posted]
  | competition c =>
    by_cases linked : Legible c.url
    · obtain ⟨url, found⟩ := nonBlank?_some linked
      simp [Draft.ofRaw, Draft.ofCompetition, RawItem.ownLink, found]
    · exact absurd (.competition linked) (unbuilt _)
  | contest c => simp only [Draft.ofRaw, Draft.ofContest, RawItem.ownLink]
  | release | news | launch | article | feed => rfl

-- A link that is not the source's own is there when its text is, and it is absolute, unless it is the reference of a
-- competition that begins with `http` and goes on otherwise than a link does. Such a reference is left as it is.
theorem normalize_built_links (made : normalize raw provider now = .ok item) :
    (∀ text, raw.LinkedBy text → (item.url = none ↔ text = none) ∧
      ∀ url, item.url = some url → (Absolute url ↔ ¬ raw.TakenForLink) ∧ (raw.TakenForLink → text = some url)) ∧
    ((∀ text, ¬ raw.LinkedBy text) → item.url = nonBlank? raw.ownLink) := by
  have drawn := (normalize_drawn made).url
  rw [← drawn]
  exact ⟨fun _ => ofRaw_url_built, ofRaw_url_own⟩

-- A contest of the gym, a reference that is a link, one that is none and is taken for one, and a post without a path.
theorem normalize_built_links_four :
    let gym : RawItem := .round ⟨some 7, some "Gym", none, none, none, none, true⟩
    let linked : RawItem := .competition ⟨some 7, some " http://x.test/7 ", some "Cup", none, some " ", none, none, none,
      none, []⟩
    let slug : RawItem := .competition ⟨some 8, some "http-archive", some "Web", none, none, none, none, none, none, []⟩
    let post : RawItem := .reddit ⟨some "1", some "Post", some "x.test", some " ", none, none, none, none, none⟩
    (∃ item url, normalize gym .codeforces .epoch = .ok item ∧ item.url = some url ∧ Absolute url) ∧
      (∃ item url, normalize linked .kaggle .epoch = .ok item ∧ item.url = some url ∧ Absolute url) ∧
      (∃ item url, normalize slug .kaggle .epoch = .ok item ∧ item.url = some url ∧ ¬ Absolute url) ∧
      ∃ item, normalize post .reddit .epoch = .ok item ∧ item.url = nonBlank? (some "x.test") := by
  intro gym linked slug post
  have gymMade : normalize gym .codeforces .epoch = .ok _ := rfl
  have linkedMade : normalize linked .kaggle .epoch = .ok _ := rfl
  have slugMade : normalize slug .kaggle .epoch = .ok _ := rfl
  have postMade : normalize post .reddit .epoch = .ok _ := rfl
  refine ⟨⟨_, _, gymMade, rfl, ?_⟩, ⟨_, _, linkedMade, rfl, ?_⟩, ⟨_, _, slugMade, rfl, ?_⟩, ⟨_, postMade, ?_⟩⟩
  · exact (((normalize_built_links gymMade).1 _ .round).2 _ rfl).1.mpr id
  · refine (((normalize_built_links linkedMade).1 _ (.competition (by decide))).2 _ rfl).1.mpr ?_
    rintro ⟨reference, found, _, other⟩
    cases found
    exact absurd other (by decide)
  · intro absolute
    refine (((normalize_built_links slugMade).1 _ (.competition not_legible_none)).2 _ rfl).1.mp absolute ?_
    exact ⟨_, rfl, by decide, by decide⟩
  · refine (normalize_built_links postMade).2 ?_
    intro text built
    change (RawItem.reddit _).LinkedBy text at built
    cases built with
    | reddit posted => exact absurd posted (by decide)

theorem normalize_slug_as_link :
    let slug : RawItem := .competition ⟨some 7, some "http-archive", some "Web", none, none, none, none, none, none, []⟩
    slug.LinkedBy (some "http-archive") ∧
      ∃ item url, normalize slug .kaggle .epoch = .ok item ∧ item.url = some url ∧ ¬ Absolute url :=
  ⟨.competition not_legible_none, _, _, rfl, rfl, by decide⟩

end Harvester
