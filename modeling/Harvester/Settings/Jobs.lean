import Harvester.Collector
import Harvester.Settings.Document
namespace Harvester

def SourceSpec.source (client : Client) : SourceSpec → Source
  | .githubReleases repos token base => Github.source client (base.getD Github.origin) repos token .releases
  | .githubEvents repos token base => Github.source client (base.getD Github.origin) repos token .events
  | .reddit subreddits sort limit base => Reddit.source client (base.getD Reddit.origin) subreddits sort limit
  | .newsApi apiKey query pageSize base => News.source client (base.getD News.origin) apiKey query pageSize
  | .kaggle username key search base => Kaggle.source client (base.getD Kaggle.origin) username key search
  | .productHunt token first base => ProductHunt.source client (base.getD ProductHunt.origin) token first
  | .devTo tag perPage base => DevTo.source client (base.getD DevTo.origin) tag perPage
  | .codeforces gym base => Codeforces.source client (base.getD Codeforces.origin) gym
  | .rss feeds => Feeds.source client feeds
  | .atcoder base => Atcoder.source client (base.getD Atcoder.origin)

-- No client can be built for the job.
structure ClientFault where
  job : String
deriving Repr, DecidableEq, Inhabited

def ClientFault.message (fault : ClientFault) : String := "building http client for job `" ++ fault.job ++ "`"

-- A client introduces itself in a header, so its name must fit into one.
def HttpSettings.client? (http : HttpSettings) : Option Client :=
  if Http.isHeaderValue http.userAgent then some ⟨http.userAgent⟩ else none

namespace Registry

def registeredNote (job : JobSettings) (source : Source) : Note :=
  .say .debug "devfeed_collector::ingest::providers" "adapter registered"
    [("job", .text job.name), ("provider", .text source.provider.name)]

-- The jobs that are switched on, in their order; a later job takes the place of an earlier one of its name.
def addAll (http : HttpSettings) : List JobSettings → Registry → List Note → Except ClientFault (Registry × List Note)
  | [], registry, notes => .ok (registry, notes)
  | job :: rest, registry, notes =>
    if job.enabled then
      match http.client? with
      | none => .error ⟨job.name⟩
      | some client =>
        let source := job.source.source client
        addAll http rest (registry.insert job.name ⟨source, job.params⟩) (notes ++ [registeredNote job source])
    else addAll http rest registry notes

def build (settings : Settings) : Except ClientFault (Registry × List Note) :=
  addAll settings.http settings.jobs Keyed.empty []

end Registry

end Harvester
