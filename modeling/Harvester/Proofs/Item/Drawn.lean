import Harvester.Normalize
namespace Harvester

variable {raw : RawItem} {provider : Provider} {fetchedAt : Instant} {item : Item}

theorem normalize_unidentified (missing : (Draft.ofRaw raw).externalId = none) (provider : Provider)
    (fetchedAt : Instant) : normalize raw provider fetchedAt = .error ⟨provider, .externalId⟩ := by
  unfold normalize
  dsimp only
  rw [missing]

theorem normalize_untitled (identified : (Draft.ofRaw raw).externalId ≠ none) (missing : (Draft.ofRaw raw).title = none)
    (provider : Provider) (fetchedAt : Instant) : normalize raw provider fetchedAt = .error ⟨provider, .title⟩ := by
  obtain ⟨externalId, drawn⟩ := Option.ne_none_iff_exists'.mp identified
  unfold normalize
  dsimp only
  rw [drawn, missing]

theorem normalize_complete (identified : (Draft.ofRaw raw).externalId ≠ none) (titled : (Draft.ofRaw raw).title ≠ none)
    (provider : Provider) (fetchedAt : Instant) : ∃ item, normalize raw provider fetchedAt = .ok item := by
  obtain ⟨externalId, drawn⟩ := Option.ne_none_iff_exists'.mp identified
  obtain ⟨title, drawnToo⟩ := Option.ne_none_iff_exists'.mp titled
  unfold normalize
  dsimp only
  rw [drawn, drawnToo]
  exact ⟨_, rfl⟩

theorem normalize_unidentified_iff : normalize raw provider fetchedAt = .error ⟨provider, .externalId⟩ ↔
    (Draft.ofRaw raw).externalId = none := by
  constructor
  · intro refused
    by_cases identified : (Draft.ofRaw raw).externalId = none
    · exact identified
    by_cases titled : (Draft.ofRaw raw).title = none
    · rw [normalize_untitled identified titled] at refused
      cases refused
    · obtain ⟨item, made⟩ := normalize_complete identified titled provider fetchedAt
      rw [made] at refused
      cases refused
  · intro missing
    exact normalize_unidentified missing provider fetchedAt

-- The texts and the type of an item are those of its draft and its raw item.
structure Drawn (raw : RawItem) (item : Item) : Prop where
  externalId : (Draft.ofRaw raw).externalId = some item.externalId
  title : (Draft.ofRaw raw).title = some item.title
  url : (Draft.ofRaw raw).url = item.url
  summary : (Draft.ofRaw raw).summary = item.summary
  sourceType : raw.sourceType = item.sourceType

theorem normalize_drawn (made : normalize raw provider fetchedAt = .ok item) : Drawn raw item := by
  unfold normalize at made
  dsimp only at made
  split at made
  · cases made
  · cases made
  · rename_i externalId title drawn drawnToo
    cases Except.ok.inj made
    exact ⟨drawn, drawnToo, rfl, rfl, rfl⟩

end Harvester
