import Harvester.Digest
import Harvester.RawItem
import Harvester.Text.Clean
namespace Harvester

open Text

-- What could be gathered of an item; two of the fields are needed.
structure Draft where
  itemType : ItemType
  externalId : Option String
  title : Option String
  url : Option String
  summary : Option String
  publishedAt : Option Instant
  metadata : Keyed String
deriving Repr, Inhabited

-- Only values that say something are noted.
def noted (table : Keyed String) (entry : String × Option String) : Keyed String :=
  match entry.2 with
  | none => table
  | some value => if value.isEmpty then table else table.insert entry.1 value

def notes (entries : List (String × Option String)) : Keyed String := entries.foldl noted Keyed.empty

def flagText (b : Bool) : String := if b then "true" else "false"

def joined (parts : List String) : String := ",".intercalate parts

namespace Draft

def ofRelease (r : Release) : Draft :=
  let tag := nonBlank? r.tagName
  { itemType := .release
    externalId := tag.map fun t => r.repo ++ "@" ++ t
    title := (clean? r.name).or tag
    url := nonBlank? r.htmlUrl
    summary := clean? r.body
    publishedAt := r.publishedAt
    metadata := notes [("repo", some r.repo), ("tag", tag), ("author", r.author),
      ("prerelease", some (flagText r.prerelease))] }

def eventTitle (kind repo : Option String) : Option String :=
  match kind, repo with
  | some kind, some repo => some (kind ++ " on " ++ repo)
  | some kind, none => some kind
  | none, _ => none

def ofEvent (e : RepoEvent) : Draft :=
  { itemType := .event
    externalId := nonBlank? e.id
    title := eventTitle e.kind e.repo
    url := e.repo.map fun r => "https://github.com/" ++ r
    summary := none
    publishedAt := e.createdAt
    metadata := notes [("repo", e.repo), ("actor", e.actor), ("type", e.kind),
      ("action", (e.detail? "action").bind Json.string?), ("ref", (e.detail? "ref").bind Json.string?),
      ("commits", ((e.detail? "size").bind Json.word?).map fun n => toString n)] }

def ofReddit (p : RedditPost) : Draft :=
  { itemType := .post
    externalId := nonBlank? p.id
    title := clean? p.title
    url := ((nonBlank? p.permalink).map fun l => "https://www.reddit.com" ++ l).or (nonBlank? p.url)
    summary := clean? p.selftext
    publishedAt := p.createdUtc.bind Instant.ofSeconds?
    metadata := notes [("subreddit", p.subreddit), ("author", p.author), ("score", p.score.map fun n => toString n)] }

def ofNews (a : NewsArticle) : Draft :=
  let url := nonBlank? a.url
  { itemType := .article
    externalId := url.map digest
    title := clean? a.title
    url := url
    summary := clean? a.description
    publishedAt := a.publishedAt
    metadata := notes [("source", a.source), ("author", a.author)] }

-- A reference is a full link or the last part of one.
def competitionLink (reference : String) : String :=
  if startsWith "http".toList reference.toList then reference
  else "https://www.kaggle.com/competitions/" ++ reference

def ofCompetition (c : Competition) : Draft :=
  let reference := nonBlank? c.reference
  { itemType := .competition
    externalId := reference.or (c.id.map fun n => toString n)
    title := clean? c.title
    url := (nonBlank? c.url).or (reference.map competitionLink)
    summary := clean? c.description
    publishedAt := c.enabledDate
    metadata := notes [("category", c.category), ("reward", c.reward), ("deadline", c.deadline.map Instant.renderOffset),
      ("tags", some (joined (c.tags.filterMap fun tag => tag)))] }

def ofLaunch (l : Launch) : Draft :=
  { itemType := .product
    externalId := nonBlank? l.id
    title := clean? l.name
    url := nonBlank? l.url
    summary := clean? l.tagline
    publishedAt := l.createdAt
    metadata := notes [("votes", l.votes.map fun n => toString n), ("topics", l.topics.map joined)] }

def ofArticle (a : DevArticle) : Draft :=
  { itemType := .article
    externalId := a.id.map fun n => toString n
    title := clean? a.title
    url := nonBlank? a.url
    summary := clean? a.description
    publishedAt := a.publishedAt
    metadata := notes [("tags", some (joined a.tags)), ("author", a.author)] }

def roundLink (gym : Bool) (id : Int) : String :=
  "https://codeforces.com/" ++ (if gym then "gym" else "contest") ++ "/" ++ toString id

def ofRound (r : Round) : Draft :=
  { itemType := .contest
    externalId := r.id.map fun n => toString n
    title := clean? r.name
    url := r.id.map (roundLink r.gym)
    summary := none
    publishedAt := r.startTimeSeconds.bind Instant.ofSeconds?
    metadata := notes [("phase", r.phase), ("type", r.kind), ("durationSeconds", r.durationSeconds.map fun n => toString n),
      ("gym", some (flagText r.gym))] }

-- The id of a feed entry: its own one, or else its link, or else a digest of title and date.
def entryId? (e : Feed.Entry) : Option String :=
  ((nonBlank? e.guid).or (nonBlank? e.link)).or
    ((clean? e.title).map fun t => digest (t ++ "|" ++ e.pubDate.getD ""))

def ofFeed (e : Feed.Entry) : Draft :=
  { itemType := .article
    externalId := entryId? e
    title := clean? e.title
    url := nonBlank? e.link
    summary := clean? e.description
    publishedAt := e.publishedAt
    metadata := notes [("feed", some e.feed), ("author", e.author), ("categories", some (joined e.categories))] }

def ofContest (c : Contest) : Draft :=
  { itemType := .contest
    externalId := nonBlank? (some c.slug)
    title := clean? (some c.title)
    url := nonBlank? (some c.url)
    summary := none
    publishedAt := c.startTime
    metadata := notes [("duration", c.duration), ("ratedRange", c.ratedRange)] }

def ofRaw : RawItem → Draft
  | .release r => ofRelease r
  | .event e => ofEvent e
  | .reddit p => ofReddit p
  | .news a => ofNews a
  | .competition c => ofCompetition c
  | .launch l => ofLaunch l
  | .article a => ofArticle a
  | .round r => ofRound r
  | .feed e => ofFeed e
  | .contest c => ofContest c

end Draft

inductive NeededField
  | externalId | title
deriving Repr, DecidableEq, Inhabited

def NeededField.name : NeededField → String
  | .externalId => "externalId"
  | .title => "title"

-- Why an item is dropped.
structure MissingField where
  provider : Provider
  field : NeededField
deriving Repr, DecidableEq, Inhabited

def missingText (provider : String) (field : String) : String :=
  provider ++ " item is missing required field `" ++ field ++ "`"

def MissingField.message (m : MissingField) : String := missingText m.provider.name m.field.name

-- A raw item as an item. Where the source gives no date, the time of the fetch counts. A missing id is noticed before a
-- missing title.
def normalize (raw : RawItem) (provider : Provider) (fetchedAt : Instant) : Except MissingField Item :=
  let draft := Draft.ofRaw raw
  match draft.externalId, draft.title with
  | none, _ => .error ⟨provider, .externalId⟩
  | some _, none => .error ⟨provider, .title⟩
  | some externalId, some title =>
    .ok
      { provider, itemType := draft.itemType, title, url := draft.url, summary := draft.summary,
        publishedAt := draft.publishedAt.getD fetchedAt, sourceType := raw.sourceType, status := none, externalId,
        metadata := draft.metadata }

end Harvester
