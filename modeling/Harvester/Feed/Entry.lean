import Harvester.Instant.Reading
import Harvester.Instant.MailDate
import Harvester.Xml.Record
namespace Harvester.Feed

-- One entry of a feed, whichever dialect it was written in. `pubDate` is the date as written, `publishedAt` what it
-- means.
structure Entry where
  feed : String
  title : Option String
  link : Option String
  guid : Option String
  description : Option String
  author : Option String
  pubDate : Option String
  publishedAt : Option Instant
  categories : List String
deriving Repr, DecidableEq, Inhabited

end Harvester.Feed
