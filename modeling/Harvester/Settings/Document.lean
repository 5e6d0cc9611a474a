import Harvester.Json.Reader
import Harvester.Payload.Github
import Harvester.Source.Feeds
import Harvester.Toml.Reader
namespace Harvester

-- Where a job's items come from, as it is configured. An absent base address stands for the service's own.
inductive SourceSpec
  | githubReleases (repos : List String) (token base : Option String)
  | githubEvents (repos : List String) (token base : Option String)
  | reddit (subreddits : List String) (sort : String) (limit : Nat) (base : Option String)
  | newsApi (apiKey query : String) (pageSize : Nat) (base : Option String)
  | kaggle (username key : String) (search base : Option String)
  | productHunt (token : String) (first : Nat) (base : Option String)
  | devTo (tag : Option String) (perPage : Nat) (base : Option String)
  | codeforces (gym : Bool) (base : Option String)
  | rss (feeds : List FeedSpec)
  | atcoder (base : Option String)
deriving Repr, DecidableEq, Inhabited

structure JobSettings where
  name : String
  enabled : Bool
  params : Parameters
  source : SourceSpec
deriving Repr, DecidableEq, Inhabited

structure SinkSettings where
  baseUrl : String
  defaultStatus : Status
  timeoutSecs : Nat
deriving Repr, DecidableEq, Inhabited

structure HttpSettings where
  timeoutSecs : Nat
  connectTimeoutSecs : Nat
  userAgent : String
deriving Repr, DecidableEq, Inhabited

structure ScheduleSettings where
  intervalSecs : Nat
  historyPath : String
deriving Repr, DecidableEq, Inhabited

structure Settings where
  sink : SinkSettings
  http : HttpSettings
  schedule : ScheduleSettings
  jobs : List JobSettings
deriving Repr, DecidableEq, Inhabited

def SinkSettings.standard : SinkSettings := ⟨"http://127.0.0.1:8080", .published, 10⟩

def HttpSettings.standard : HttpSettings := ⟨15, 5, "devfeed-collector/0.1.0"⟩

def ScheduleSettings.standard : ScheduleSettings := ⟨3600, "state/run_history.json"⟩

def Settings.standard : Settings := ⟨.standard, .standard, .standard, []⟩

inductive Format
  | json | toml
deriving Repr, DecidableEq, Inhabited

def Format.name : Format → String
  | .json => "JSON"
  | .toml => "TOML"

namespace Settings

open Json

-- A record of a settings document. Written as an array in TOML, it may have elements too many.
def section? (format : Format) (slots : List Slot) (doc : Json) : Option (String → Option Json) :=
  match format, doc with
  | .toml, .arr items => members? slots (.arr (items.take slots.length))
  | _, doc => members? slots doc

def natural? (doc : Json) : Option Nat := (word? doc).map Int.toNat

-- In TOML a constant may also be the name of an empty record or array.
def status? (format : Format) (doc : Json) : Option Status :=
  match format, doc with
  | .toml, .obj [(name, .obj [])] | .toml, .obj [(name, .arr [])] => Status.ofName? name
  | .toml, .str name => Status.ofName? name
  | .toml, _ => none
  | .json, doc => constant? Status.ofName? doc

def sink? (format : Format) (doc : Json) : Option SinkSettings := do
  let get ← section? format [omissible "base_url", omissible "default_status", omissible "timeout_secs"] doc
  let baseUrl ← defaulted SinkSettings.standard.baseUrl string? (get "base_url")
  let defaultStatus ← defaulted SinkSettings.standard.defaultStatus (status? format) (get "default_status")
  let timeoutSecs ← defaulted SinkSettings.standard.timeoutSecs natural? (get "timeout_secs")
  some ⟨baseUrl, defaultStatus, timeoutSecs⟩

def http? (format : Format) (doc : Json) : Option HttpSettings := do
  let get ← section? format [omissible "timeout_secs", omissible "connect_timeout_secs", omissible "user_agent"] doc
  let timeoutSecs ← defaulted HttpSettings.standard.timeoutSecs natural? (get "timeout_secs")
  let connectTimeoutSecs ← defaulted HttpSettings.standard.connectTimeoutSecs natural? (get "connect_timeout_secs")
  let userAgent ← defaulted HttpSettings.standard.userAgent string? (get "user_agent")
  some ⟨timeoutSecs, connectTimeoutSecs, userAgent⟩

def schedule? (format : Format) (doc : Json) : Option ScheduleSettings := do
  let get ← section? format [omissible "interval_secs", omissible "history_path"] doc
  let intervalSecs ← defaulted ScheduleSettings.standard.intervalSecs natural? (get "interval_secs")
  let historyPath ← defaulted ScheduleSettings.standard.historyPath string? (get "history_path")
  some ⟨intervalSecs, historyPath⟩

def feed? (doc : Json) : Option FeedSpec := do
  let get ← members? [slot "name", slot "url"] doc
  let name ← required string? (get "name")
  let url ← required string? (get "url")
  some ⟨name, .web url⟩

-- The kinds of sources in their order, each with the reader of its members.
def readers : List (String × (Json → Option SourceSpec)) :=
  [("github_releases", fun doc => do
      let get ← members? [slot "repos", slot "token", slot "base_url"] doc
      some (.githubReleases (← required (listOf? string?) (get "repos")) (← optional string? (get "token"))
        (← optional string? (get "base_url")))),
    ("github_events", fun doc => do
      let get ← members? [slot "repos", slot "token", slot "base_url"] doc
      some (.githubEvents (← required (listOf? string?) (get "repos")) (← optional string? (get "token"))
        (← optional string? (get "base_url")))),
    ("reddit", fun doc => do
      let get ← members? [slot "subreddits", slot "sort", slot "limit", slot "base_url"] doc
      some (.reddit (← required (listOf? string?) (get "subreddits")) (← defaulted "new" string? (get "sort"))
        (← defaulted 25 half? (get "limit")) (← optional string? (get "base_url")))),
    ("news_api", fun doc => do
      let get ← members? [slot "api_key", slot "query", slot "page_size", slot "base_url"] doc
      some (.newsApi (← required string? (get "api_key")) (← required string? (get "query"))
        (← defaulted 50 half? (get "page_size")) (← optional string? (get "base_url")))),
    ("kaggle", fun doc => do
      let get ← members? [slot "username", slot "key", slot "search", slot "base_url"] doc
      some (.kaggle (← required string? (get "username")) (← required string? (get "key"))
        (← optional string? (get "search")) (← optional string? (get "base_url")))),
    ("product_hunt", fun doc => do
      let get ← members? [slot "token", slot "first", slot "base_url"] doc
      some (.productHunt (← required string? (get "token")) (← defaulted 20 half? (get "first"))
        (← optional string? (get "base_url")))),
    ("dev_to", fun doc => do
      let get ← members? [slot "tag", slot "per_page", slot "base_url"] doc
      some (.devTo (← optional string? (get "tag")) (← defaulted 30 half? (get "per_page"))
        (← optional string? (get "base_url")))),
    ("codeforces", fun doc => do
      let get ← members? [slot "gym", slot "base_url"] doc
      some (.codeforces (← defaulted false flag? (get "gym")) (← optional string? (get "base_url")))),
    ("rss", fun doc => do
      let get ← members? [slot "feeds"] doc
      some (.rss (← required (listOf? feed?) (get "feeds")))),
    ("atcoder", fun doc => do
      let get ← members? [slot "base_url"] doc
      some (.atcoder (← optional string? (get "base_url"))))]

-- A kind is given by its name, in JSON also by its position.
def reader? (format : Format) (tag : Json) : Option (Json → Option SourceSpec) :=
  match format, tag with
  | _, .str name => (readers.find? fun r => r.1 == name).map (·.2)
  | .json, .int n => if 0 ≤ n then readers[n.toNat]?.map (·.2) else none
  | _, _ => none

def tagName : String := "source"

-- The members of a job that are not its own describe its source.
def spec? (format : Format) (fields : List (String × Json)) : Option SourceSpec :=
  match fields.filter fun field => field.1 == tagName with
  | [(_, tag)] => (reader? format tag).bind fun read => read (.obj (fields.filter fun field => field.1 != tagName))
  | _ => none

def jobNames : List String := ["name", "enabled", "params"]

-- What a job holds beside its own members is read before it is looked at, three levels deep in the document.
def isReadable (format : Format) (field : String × Json) : Bool :=
  format == .toml || (kept? 3 field.2).isSome

def job? (format : Format) (doc : Json) : Option JobSettings :=
  match doc with
  | .obj fields =>
    let others := fields.filter fun field => !jobNames.contains field.1
    if repeats jobNames fields then none
    else if others.all (isReadable format) then do
      let name ← required string? (find? "name" fields)
      let enabled ← defaulted true flag? (find? "enabled" fields)
      let params ← defaulted Keyed.empty Parameters.ofJson? (find? "params" fields)
      let source ← spec? format others
      some ⟨name, enabled, params, source⟩
    else none
  | _ => none

def ofDocument? (format : Format) (doc : Json) : Option Settings := do
  let get ← section? format [omissible "sink", omissible "http", omissible "schedule", omissible "jobs"] doc
  let sink ← defaulted .standard (sink? format) (get "sink")
  let http ← defaulted .standard (http? format) (get "http")
  let schedule ← defaulted .standard (schedule? format) (get "schedule")
  let jobs ← defaulted [] (listOf? (job? format)) (get "jobs")
  some ⟨sink, http, schedule, jobs⟩

def parse? (format : Format) (text : String) : Option Settings :=
  (match format with
    | .json => Json.parse? text
    | .toml => Toml.parse? text).bind (ofDocument? format)

end Settings

end Harvester
