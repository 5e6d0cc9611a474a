import Harvester.Proofs.Item.Required
namespace Harvester

open Text

variable {s : Option String} {t : String} {raw : RawItem}

theorem clean_edged (s : String) : Edged (clean s).toList := by
  rw [clean_toList]
  exact cleanWith_edged _ _

theorem clean?_drawn (drawn : clean? s = some t) : ∃ u, s = some u ∧ clean u = t := by
  cases s with
  | none => cases drawn
  | some u =>
    unfold clean? at drawn
    dsimp only at drawn
    split at drawn
    · cases drawn
    · exact ⟨u, rfl, Option.some.inj drawn⟩

theorem clean?_some (filled : clean t ≠ "") : clean? (some t) = some (clean t) := by
  unfold clean?
  dsimp only
  rw [if_neg fun empty => filled (String.isEmpty_iff.mp empty)]

theorem clean?_edged (drawn : clean? s = some t) : Edged t.toList := by
  obtain ⟨u, _, rfl⟩ := clean?_drawn drawn
  exact clean_edged u

theorem nonBlank?_edged (drawn : nonBlank? s = some t) : Edged t.toList := by
  cases s with
  | none => cases drawn
  | some u =>
    unfold nonBlank? at drawn
    dsimp only at drawn
    split at drawn
    · cases drawn
    · rw [← Option.some.inj drawn, trimmed_toList]
      exact ⟨trim_clearStart _, .inl (trim_clearEnd _)⟩

theorem ofRaw_summary_edged (drawn : (Draft.ofRaw raw).summary = some t) : Edged t.toList := by
  cases raw with
  | release r => exact clean?_edged (s := r.body) drawn
  | reddit p => exact clean?_edged (s := p.selftext) drawn
  | news a => exact clean?_edged (s := a.description) drawn
  | competition c => exact clean?_edged (s := c.description) drawn
  | launch l => exact clean?_edged (s := l.tagline) drawn
  | article a => exact clean?_edged (s := a.description) drawn
  | feed e => exact clean?_edged (s := e.description) drawn
  | event | round | contest => cases drawn

theorem ofRaw_title_edged (noEvent : ∀ e, raw ≠ .event e) (drawn : (Draft.ofRaw raw).title = some t) :
    Edged t.toList := by
  cases raw with
  | release r =>
    dsimp only [Draft.ofRaw, Draft.ofRelease] at drawn
    rcases Option.or_eq_some_iff.mp drawn with named | ⟨_, tagged⟩
    · exact clean?_edged named
    · exact nonBlank?_edged tagged
  | event e => exact absurd rfl (noEvent e)
  | reddit p => exact clean?_edged (s := p.title) drawn
  | news a => exact clean?_edged (s := a.title) drawn
  | competition c => exact clean?_edged (s := c.title) drawn
  | launch l => exact clean?_edged (s := l.name) drawn
  | article a => exact clean?_edged (s := a.title) drawn
  | round r => exact clean?_edged (s := r.name) drawn
  | feed e => exact clean?_edged (s := e.title) drawn
  | contest c =>
    dsimp only [Draft.ofRaw, Draft.ofContest] at drawn
    exact clean?_edged drawn

-- A text that is shown is trimmed unless the limit cuts it just before a word; then one space is left at its end. So it
-- is with the summaries, and with the titles that are not made from the kind of an event.
theorem clean_edges (s : String) (raw : RawItem) (provider : Provider) (fetchedAt : Instant) :
    (ClearStart (clean s).toList ∧ ClearEnd (clean s).toList ↔ (uncut decodeEntities s.toList)[1499]? ≠ some ' ') ∧
      Edged (clean s).toList ∧
      ∀ item, normalize raw provider fetchedAt = .ok item →
        (∀ summary, item.summary = some summary → Edged summary.toList) ∧
          ((∀ e, raw ≠ .event e) → Edged item.title.toList) := by
  refine ⟨?_, clean_edged s, ?_⟩
  · rw [clean_toList, cleanWith_clearEnd_iff, and_iff_right (cleanWith_tidy _ _).start]
  · intro item made
    have drawn := normalize_drawn made
    refine ⟨fun summary given => ?_, fun noEvent => ofRaw_title_edged noEvent drawn.title⟩
    exact ofRaw_summary_edged (drawn.summary.trans given)

theorem uncut_at_limit : (uncut decodeEntities (List.replicate 1499 'a' ++ [' ', 'b']))[1499]? = some ' ' := by
  decide +kernel

theorem clean_edges_long :
    let long := String.ofList (List.replicate 1499 'a' ++ [' ', 'b'])
    let post : RawItem := .reddit ⟨some "1", some long, none, none, some " more ", none, none, none, none⟩
    ∃ item, normalize post .reddit .epoch = .ok item ∧
      (∀ summary, item.summary = some summary → Edged summary.toList) ∧ Edged item.title.toList ∧
      ¬ (ClearStart item.title.toList ∧ ClearEnd item.title.toList) := by
  intro long post
  obtain ⟨edges, _, edged⟩ := clean_edges long post .reddit .epoch
  have cut : ¬ (ClearStart (clean long).toList ∧ ClearEnd (clean long).toList) := by
    rw [edges, String.toList_ofList, uncut_at_limit]
    exact fun apart => apart rfl
  have filled : clean long ≠ "" := by
    intro empty
    rw [empty] at cut
    refine cut ⟨?_, ?_⟩
    all_goals
      intro c found
      cases found
  have shown : (Draft.ofRaw post).title = some (clean long) := by
    dsimp only [post, Draft.ofRaw, Draft.ofReddit]
    exact clean?_some filled
  have identified : (Draft.ofRaw post).externalId ≠ none := by decide +kernel
  have titled : (Draft.ofRaw post).title ≠ none := by
    rw [shown]
    exact Option.some_ne_none _
  obtain ⟨item, made⟩ := normalize_complete identified titled .reddit .epoch
  obtain ⟨summaries, title⟩ := edged item made
  have same : clean long = item.title := Option.some.inj (shown.symm.trans (normalize_drawn made).title)
  rw [same] at cut
  refine ⟨item, made, summaries, title ?_, cut⟩
  intro e other
  change RawItem.reddit _ = .event e at other
  cases other

theorem clean_cut_before_word :
    ¬ ClearEnd (clean (String.ofList (List.replicate 1499 'a' ++ [' ', 'b']))).toList := by
  rw [clean_toList, String.toList_ofList, cleanWith_clearEnd_iff, uncut_at_limit]
  exact fun apart => apart rfl

end Harvester
