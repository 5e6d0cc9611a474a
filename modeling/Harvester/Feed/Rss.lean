import Harvester.Feed.Entry
namespace Harvester.Feed.Rss

open Xml

def date? (text : String) : Option Instant := Instant.ofMail? (Text.trim text.toList)

-- An item: every field stands at most once, only categories may be repeated. Elements of other names are passed over.
def itemOf? (feed : String) (element : Child) : Option Entry := do
  let record ← Record.ofElement? ["category"] element
  let title ← record.once? "title" plainText?
  let link ← record.once? "link" plainText?
  let guid ← record.once? "guid" mixedText?
  let pubDate ← record.once? "pubDate" plainText?
  let description ← record.once? "description" plainText?
  let author ← record.once? "author" plainText?
  let categories ← record.many? "category" mixedText?
  some
    { feed, title, link, guid := guid.join, description, author, pubDate, publishedAt := pubDate.bind date?,
      categories := categories.filterMap id }

def channelOf? (feed : String) (element : Child) : Option (List Entry) := do
  let record ← Record.ofElement? ["item"] element
  record.many? "item" (itemOf? feed)

-- The root may have any name; it holds exactly one channel.
def entries? (feed : String) (root : Child) : Option (List Entry) := do
  let record ← Record.ofElement? [] root
  let channel ← record.once? "channel" (channelOf? feed)
  channel

end Harvester.Feed.Rss
