import Harvester.Contest.Table
import Harvester.Feed.Entry
import Harvester.Payload.Codeforces
import Harvester.Payload.DevTo
import Harvester.Payload.Github
import Harvester.Payload.Kaggle
import Harvester.Payload.News
import Harvester.Payload.ProductHunt
import Harvester.Payload.Reddit
namespace Harvester

-- An item as its source delivers it.
inductive RawItem
  | release (r : Release)
  | event (e : RepoEvent)
  | reddit (p : RedditPost)
  | news (a : NewsArticle)
  | competition (c : Competition)
  | launch (l : Launch)
  | article (a : DevArticle)
  | round (r : Round)
  | feed (e : Feed.Entry)
  | contest (c : Contest)
deriving Repr, Inhabited

def RawItem.sourceType : RawItem → SourceType
  | .feed _ => .rss
  | .contest _ => .scrape
  | _ => .api

end Harvester
