import Harvester.Proofs.Item.SameKey
import Harvester.Proofs.Schedule.Succession
namespace Harvester

open Text

variable {item twin : Item} {provider another : Provider} {now later : Instant}

-- Both lists are cut at the first separator.
theorem cut_at_first {sep : α} {a b x y : List α} (left : sep ∉ a) (right : sep ∉ b)
    (same : a ++ sep :: x = b ++ sep :: y) : a = b ∧ x = y := by
  have turned := congrArg List.reverse same
  simp only [List.reverse_append, List.reverse_cons, List.append_assoc, List.singleton_append] at turned
  obtain ⟨ends, starts⟩ := cut_at_last (by simpa using left) (by simpa using right) turned
  exact ⟨List.reverse_injective starts, List.reverse_injective ends⟩

theorem nonBlank?_eq_some {s : Option String} {t : String} (drawn : nonBlank? s = some t) : t = trimmed (s.getD "") := by
  rw [nonBlank?_eq] at drawn
  split at drawn
  · cases drawn
  · exact (Option.some.inj drawn).symm

theorem release_externalId {r : Release} (made : normalize (.release r) provider now = .ok item) :
    item.externalId = r.repo ++ "@" ++ trimmed (r.tagName.getD "") := by
  have drawn : (nonBlank? r.tagName).map (fun t => r.repo ++ "@" ++ t) = some item.externalId :=
    (normalize_drawn made).externalId
  obtain ⟨tag, given, shown⟩ := Option.map_eq_some_iff.mp drawn
  rw [← shown, nonBlank?_eq_some given]

theorem titled_externalId {e : Feed.Entry} (noGuid : ¬ Legible e.guid) (noLink : ¬ Legible e.link)
    (made : normalize (.feed e) provider now = .ok item) :
    item.externalId = digest (e.shown ++ "|" ++ e.pubDate.getD "") := by
  have drawn : Draft.entryId? e = some item.externalId := (normalize_drawn made).externalId
  rw [entryId?_titled noGuid noLink] at drawn
  split at drawn
  · cases drawn
  · exact (Option.some.inj drawn).symm

-- An id that is put together of two parts names both: the repository of a release holds no `@`, so it ends at the first
-- one, whatever the tag holds; the date of an entry holds no `|`, so it begins behind the last one, whatever the title
-- holds. Of the sums it is assumed that those of the two entries in question do not collide.
theorem normalize_composite_ids :
    (∀ {r s : Release} {provider another now later item twin}, normalize (.release r) provider now = .ok item →
      normalize (.release s) another later = .ok twin → '@' ∉ r.repo.toList → '@' ∉ s.repo.toList →
        (item.externalId = twin.externalId ↔ r.repo = s.repo ∧ SameText r.tagName s.tagName)) ∧
    (∀ {r : Release} {e : RepoEvent} {provider another now later item twin},
      normalize (.release r) provider now = .ok item → normalize (.event e) another later = .ok twin →
        '@' ∉ (e.id.getD "").toList → item.externalId ≠ twin.externalId) ∧
    ∀ {e f : Feed.Entry} {provider another now later item twin}, normalize (.feed e) provider now = .ok item →
      normalize (.feed f) another later = .ok twin → ¬ Legible e.guid → ¬ Legible e.link → ¬ Legible f.guid →
        ¬ Legible f.link → '|' ∉ (e.pubDate.getD "").toList → '|' ∉ (f.pubDate.getD "").toList →
          ¬ Digest.Collide (utf8 (e.shown ++ "|" ++ e.pubDate.getD "")) (utf8 (f.shown ++ "|" ++ f.pubDate.getD "")) →
            (item.externalId = twin.externalId ↔ e.shown = f.shown ∧ e.pubDate.getD "" = f.pubDate.getD "") := by
  refine ⟨?_, ?_, ?_⟩
  · intro r s _ _ _ _ item twin made madeToo plain plainToo
    rw [release_externalId made, release_externalId madeToo]
    constructor
    · intro same
      have chars := congrArg String.toList same
      simp only [String.toList_append, List.append_assoc] at chars
      obtain ⟨repos, tags⟩ := cut_at_first plain plainToo chars
      exact ⟨String.toList_injective repos, String.toList_injective tags⟩
    · rintro ⟨repo, tag⟩
      rw [repo, tag]
  · intro r e _ _ _ _ item twin made madeToo plain same
    have given : nonBlank? e.id = some twin.externalId := (normalize_drawn madeToo).externalId
    apply plain
    have present : '@' ∈ twin.externalId.toList := by
      rw [← same, release_externalId made]
      simp
    rw [nonBlank?_eq_some given, trimmed_toList] at present
    exact (trim_within _).mem present
  · intro e f _ _ _ _ item twin made madeToo noGuid noLink noGuidToo noLinkToo plain plainToo apart
    rw [titled_externalId noGuid noLink made, titled_externalId noGuidToo noLinkToo madeToo, digest_eq_iff apart]
    constructor
    · intro same
      have chars := congrArg String.toList same
      simp only [String.toList_append, List.append_assoc] at chars
      obtain ⟨titles, dates⟩ := cut_at_last plain plainToo chars
      exact ⟨String.toList_injective titles, String.toList_injective dates⟩
    · rintro ⟨title, date⟩
      rw [title, date]

-- Tags with an `@` in them, and titles with a `|` in them.
theorem normalize_composite_ids_marked :
    let first : Release := ⟨1, some " v@1", none, none, none, none, false, none, "a/b"⟩
    let again : Release := ⟨2, some "v@1\n", some "One", none, none, none, true, none, "a/b"⟩
    let other : Release := ⟨3, some "1", none, none, none, none, false, none, "a/b"⟩
    let push : RepoEvent := ⟨some "7", some "PushEvent", none, none, none, .null⟩
    let whole : Feed.Entry := ⟨"blog", some "a|b", none, some " ", none, none, some "c", none, []⟩
    let bold : Feed.Entry := ⟨"mail", some "<b>a|b</b>", none, none, none, none, some "c", none, []⟩
    let short : Feed.Entry := ⟨"blog", some "a", none, none, none, none, some "b", none, []⟩
    (∃ item twin third, normalize (.release first) .github .epoch = .ok item ∧
      normalize (.release again) .github .epoch = .ok twin ∧ normalize (.release other) .github .epoch = .ok third ∧
      item.externalId = twin.externalId ∧ item.externalId ≠ third.externalId) ∧
    (∃ item happened, normalize (.release first) .github .epoch = .ok item ∧
      normalize (.event push) .github .epoch = .ok happened ∧ item.externalId ≠ happened.externalId) ∧
    ∃ item twin third, normalize (.feed whole) .rss .epoch = .ok item ∧ normalize (.feed bold) .rss .epoch = .ok twin ∧
      normalize (.feed short) .rss .epoch = .ok third ∧ item.externalId = twin.externalId ∧
      item.externalId ≠ third.externalId := by
  intro first again other push whole bold short
  obtain ⟨releases, events, entries⟩ := normalize_composite_ids
  obtain ⟨item, made⟩ := @normalize_complete (.release first) (by decide +kernel) (by decide +kernel) .github .epoch
  refine ⟨?_, ?_, ?_⟩
  · obtain ⟨twin, madeToo⟩ :=
      @normalize_complete (.release again) (by decide +kernel) (by decide +kernel) .github .epoch
    obtain ⟨third, madeLast⟩ :=
      @normalize_complete (.release other) (by decide +kernel) (by decide +kernel) .github .epoch
    refine ⟨item, twin, third, made, madeToo, madeLast, ?_, fun same => ?_⟩
    · exact (releases made madeToo (by decide) (by decide)).mpr ⟨rfl, by decide +kernel⟩
    · exact absurd ((releases made madeLast (by decide) (by decide)).mp same).2 (by decide +kernel)
  · obtain ⟨happened, madeToo⟩ :=
      @normalize_complete (.event push) (by decide +kernel) (by decide +kernel) .github .epoch
    exact ⟨item, happened, made, madeToo, events made madeToo (by decide)⟩
  · have shown : whole.shown = "a|b" := by decide +kernel
    have shownToo : bold.shown = "a|b" := by decide +kernel
    have shownLast : short.shown = "a" := by decide +kernel
    have blank : ¬ Legible whole.guid := by decide +kernel
    obtain ⟨item, made, _⟩ := @normalize_titled whole blank nofun (by rw [shown]; decide) .rss .epoch
    obtain ⟨twin, madeToo, _⟩ := @normalize_titled bold nofun nofun (by rw [shownToo]; decide) .rss .epoch
    obtain ⟨third, madeLast, _⟩ := @normalize_titled short nofun nofun (by rw [shownLast]; decide) .rss .epoch
    refine ⟨item, twin, third, made, madeToo, madeLast, ?_, fun same => ?_⟩
    · refine (entries made madeToo blank nofun nofun nofun (by decide) (by decide) ?_).mpr
        ⟨shown.trans shownToo.symm, rfl⟩
      rintro ⟨differ, _⟩
      rw [shown, shownToo] at differ
      exact differ rfl
    · refine absurd ((entries made madeLast blank nofun nofun nofun (by decide) (by decide) ?_).mp same).2 (by decide)
      rw [shown, shownLast]
      rintro ⟨_, sums⟩
      exact absurd sums (by decide +kernel)

end Harvester
