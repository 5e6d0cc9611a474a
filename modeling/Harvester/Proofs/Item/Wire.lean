import Harvester.Item
import Harvester.Proofs.History.Document
import Harvester.Proofs.Instant.Clock
import Harvester.Proofs.Json.Written
namespace Harvester.Item

open Json

-- An item as it is sent.
def encode (item : Item) : String := Json.toText item.toJson

def decode? (text : String) : Option Item := (Json.parse? text).bind ofJson?

-- The time stamp in the text of an item, as it is written.
def stamp? (text : String) : Option String := do
  let doc ← Json.parse? text
  let get ← members? slots doc
  required string? (get "publishedAt")

theorem constant?_provider (p : Provider) : constant? Provider.ofName? (.str p.name) = some p := by
  cases p <;> decide

theorem constant?_itemType (t : ItemType) : constant? ItemType.ofName? (.str t.name) = some t := by
  cases t <;> decide

theorem constant?_sourceType (t : SourceType) : constant? SourceType.ofName? (.str t.name) = some t := by
  cases t <;> decide

theorem optional_status (status : Option Status) :
    optional (constant? Status.ofName?) (some (ofOption (status.map Status.name))) = some status := by
  rcases status with _ | _ | _ <;> decide

theorem optional_ofOption (s : Option String) : optional string? (some (ofOption s)) = some s := by
  cases s <;> rfl

theorem metadata?_back (metadata : Keyed String) :
    metadata? (.obj (metadata.entries.map fun e => (e.1, .str e.2))) = some metadata :=
  members_back (fun s => (rfl : string? (.str s) = some s)) metadata

theorem instant?_back {t : Instant} (held : t.IsHeld) (told : t.IsTold) : instant? (.str t.render) = some t := by
  rw [instant?, string?, Option.bind_some, Instant.ofWire?_render held told]

-- What stands under the names of an item that is written.
theorem members?_toJson (item : Item) : ∃ get, members? slots item.toJson = some get ∧
    get "provider" = some (.str item.provider.name) ∧ get "itemType" = some (.str item.itemType.name) ∧
    get "title" = some (.str item.title) ∧ get "url" = some (ofOption item.url) ∧
    get "summary" = some (ofOption item.summary) ∧ get "publishedAt" = some (.str item.publishedAt.render) ∧
    get "sourceType" = some (.str item.sourceType.name) ∧
    get "status" = some (ofOption (item.status.map Status.name)) ∧
    get "externalId" = some (.str item.externalId) ∧
    get "metadata" = some (.obj (item.metadata.entries.map fun e => (e.1, .str e.2))) := by
  have distinct : repeats (slots.map (·.name)) [("provider", .str item.provider.name),
      ("itemType", .str item.itemType.name), ("title", .str item.title), ("url", ofOption item.url),
      ("summary", ofOption item.summary), ("publishedAt", .str item.publishedAt.render),
      ("sourceType", .str item.sourceType.name), ("status", ofOption (item.status.map Status.name)),
      ("externalId", .str item.externalId),
      ("metadata", .obj (item.metadata.entries.map fun e => (e.1, .str e.2)))] = false := by
    simp [repeats, slots, slot, omissible]
  refine ⟨_, by rw [toJson, members?, distinct]; rfl, ?_⟩
  simp [find?]

theorem ofJson?_toJson {item : Item} (held : item.publishedAt.IsHeld) (told : item.publishedAt.IsTold) :
    ofJson? item.toJson = some item := by
  obtain ⟨get, shown, provider, itemType, title, url, summary, publishedAt, sourceType, status, externalId, metadata⟩ :=
    members?_toJson item
  simp only [ofJson?, shown, provider, itemType, title, url, summary, publishedAt, sourceType, status, externalId,
    metadata, required, defaulted, string?, constant?_provider, constant?_itemType, constant?_sourceType,
    optional_status, optional_ofOption, metadata?_back, instant?_back held told, Option.bind_eq_bind, Option.bind_some]

theorem ofOption_exact (s : Option String) : (ofOption s).IsExact := by
  cases s <;> rfl

theorem toJson_exact (item : Item) : item.toJson.IsExact := by
  have metadata := members_exact (fun s => (rfl : (Json.str s).IsExact)) item.metadata.entries
  have url := ofOption_exact item.url
  have summary := ofOption_exact item.summary
  have status := ofOption_exact (item.status.map Status.name)
  simp only [IsExact] at metadata url summary status ⊢
  simp only [toJson, holds, holdsFields, url, summary, status, Bool.and_true, Bool.true_and]
  exact metadata

theorem parse?_encode (item : Item) : Json.parse? item.encode = some item.toJson :=
  (document_toText item.toJson_exact).parse

theorem decode?_encode {item : Item} (held : item.publishedAt.IsHeld) (told : item.publishedAt.IsTold) :
    decode? item.encode = some item := by
  rw [decode?, parse?_encode, Option.bind_some, ofJson?_toJson held told]

-- The item at the moment that its time stamp gives where that is another than its own.
def following (item : Item) : Item := { item with publishedAt := item.publishedAt.following }

theorem encode_following {item : Item} (untold : ¬item.publishedAt.IsTold) (held : item.publishedAt.IsHeld) :
    item.following.encode = item.encode := by
  have stamp := Instant.render_following untold held
  simp only [encode, toJson, following, stamp]

theorem decode?_untold {item : Item} (untold : ¬item.publishedAt.IsTold) (held : item.publishedAt.IsHeld) :
    decode? item.encode = some item.following := by
  rw [← encode_following untold held]
  exact decode?_encode (Instant.following_held untold held) (Instant.following_told held)

theorem stamp?_encode (item : Item) : stamp? item.encode = some item.publishedAt.render := by
  obtain ⟨get, shown, _, _, _, _, _, publishedAt, _⟩ := members?_toJson item
  simp only [stamp?, parse?_encode, shown, publishedAt, required, string?, Option.bind_eq_bind, Option.bind_some]

-- The moment of an item that is read is what its time stamp says.
theorem decode?_stamp {item : Item} (read : decode? text = some item) :
    ∃ stamp, stamp? text = some stamp ∧ Instant.ofWire? stamp = some item.publishedAt := by
  simp only [decode?, ofJson?, Option.bind_eq_bind, Option.bind_eq_some_iff] at read
  obtain ⟨doc, parsed, get, shown, _, _, _, _, _, _, _, _, _, _, moment, published, _, _, _, _, _, _, _, _, made⟩ :=
    read
  cases made
  cases found : get "publishedAt" with
  | none => simp [found, required] at published
  | some value =>
    rw [found] at published
    obtain ⟨stamp, spelled, meant⟩ := Option.bind_eq_some_iff.mp published
    exact ⟨stamp, by simp only [stamp?, parsed, shown, found, required, spelled, Option.bind_eq_bind, Option.bind_some],
      meant⟩

-- What is sent of an item is read as that item, unless its moment is in a leap second within a minute: that is sent,
-- and read, as the second after. What is read as an item, in whatever zone and however loosely its moment is written, is
-- sent in one way, which is read as the same item and gives the same moment in UTC.
theorem wire_round_trip :
    (∀ item : Item, item.publishedAt.IsHeld →
      (item.publishedAt.IsTold → decode? item.encode = some item) ∧
      (¬item.publishedAt.IsTold → decode? item.encode = some item.following)) ∧
    ∀ text item, decode? text = some item → decode? item.encode = some item ∧
      ∃ stamp clock utc, stamp? text = some stamp ∧ Clock.read? stamp = some clock ∧
        stamp? item.encode = some utc.text ∧ Clock.read? utc.text = some utc ∧ utc.offset = 0 ∧
        clock.instant? = some item.publishedAt ∧ utc.instant? = some item.publishedAt ∧ clock.SameMoment utc := by
  refine ⟨fun item held => ⟨decode?_encode held, fun untold => decode?_untold untold held⟩, fun text item read => ?_⟩
  obtain ⟨stamp, spelled, moment⟩ := decode?_stamp read
  rw [Clock.ofWire?_read] at moment
  obtain ⟨clock, said, meant⟩ := Option.bind_eq_some_iff.mp moment
  have minutes := Clock.read?_minutes said
  have held := Clock.instant?_held meant
  have told := Clock.instant?_told meant minutes
  exact ⟨decode?_encode held told, stamp, clock, item.publishedAt.clock, spelled, said, stamp?_encode item,
    Clock.read?_text (Instant.clock_proper held) rfl, rfl, meant, Instant.clock_instant held told,
    Clock.instant?_sameMoment meant minutes⟩

-- Before the year 0, to the nanosecond.
def early : Item :=
  ⟨.rss, .article, "\"\\\n\t\u0001\u00e9", none, some "", ⟨-62230000000, 123456789⟩, .rss, none, "",
    Keyed.ofList [("b", "\u2028"), ("a", "")]⟩

-- Within a leap second, seen from five hours west of UTC.
def zoned : String :=
  "\x7b\"provider\":\"GITHUB\",\"itemType\":\"RELEASE\",\"title\":\"one\",\"publishedAt\":" ++
    "\"2016-12-31T18:59:60.5-05:00\",\"sourceType\":\"API\",\"externalId\":\"1\"\x7d"

-- Within a leap second behind 2015-09-08T23:56:04Z.
def midway : Item := ⟨.rss, .article, "one", none, none, ⟨1441756564, 1333333333⟩, .rss, none, "1", .empty⟩

theorem wire_round_trip_zoned : decode? early.encode = some early ∧ decode? midway.encode = some midway.following ∧
    ∃ item, decode? zoned = some item ∧ decode? item.encode = some item ∧
      stamp? item.encode = some "2016-12-31T23:59:60.500Z" := by
  refine ⟨(wire_round_trip.1 early (by decide +kernel)).1 (by decide +kernel),
    (wire_round_trip.1 midway (by decide +kernel)).2 (by decide +kernel), ?_⟩
  have read : decode? zoned =
      some ⟨.github, .release, "one", none, none, ⟨1483228799, 1500000000⟩, .api, none, "1", .empty⟩ := by
    decide +kernel
  have rendered : (⟨1483228799, 1500000000⟩ : Instant).render = "2016-12-31T23:59:60.500Z" := by decide +kernel
  exact ⟨_, read, (wire_round_trip.2 zoned _ read).1, rendered ▸ stamp?_encode _⟩

-- Not every item that can be held is read as itself.
theorem wire_round_trip_midway : midway.publishedAt.IsHeld ∧
    stamp? midway.encode = some "2015-09-08T23:56:05.333333333Z" ∧
    Instant.ofWire? "2015-09-08T23:56:05.333333333Z" = some ⟨1441756565, 333333333⟩ ∧
    decode? midway.encode ≠ some midway := by
  have held : midway.publishedAt.IsHeld := by decide +kernel
  have rendered : midway.publishedAt.render = "2015-09-08T23:56:05.333333333Z" := by decide +kernel
  refine ⟨held, rendered ▸ stamp?_encode midway, by decide +kernel, ?_⟩
  intro read
  have moved : some midway.following = some midway := (decode?_untold (by decide +kernel) held).symm.trans read
  cases congrArg (fun item : Item => item.publishedAt.seconds) (Option.some.inj moved)

end Harvester.Item
