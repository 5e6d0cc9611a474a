import Harvester.Feed.Entry
namespace Harvester.Feed.Atom

open Xml

def date? (text : String) : Option Instant := Instant.ofRfc3339? (Text.trim text.toList)

structure Link where
  href : Option String
  rel : Option String
deriving Repr, DecidableEq, Inhabited

def link? (element : Child) : Option Link := do
  let record ← Record.ofElement? [] element
  let href ← record.attribute? "href"
  let rel ← record.attribute? "rel"
  some ⟨href, rel⟩

-- A link without a relation is an alternate one.
def Link.isAlternate (link : Link) : Bool := link.rel == none || link.rel == some "alternate"

-- The first alternate link, or else the first of all.
def permalink (links : List Link) : Option String :=
  ((links.find? Link.isAlternate).or links.head?).bind (·.href)

def term? (element : Child) : Option (Option String) := do
  let record ← Record.ofElement? [] element
  record.attribute? "term"

def name? (element : Child) : Option (Option String) := do
  let record ← Record.ofElement? [] element
  record.once? "name" plainText?

-- A summary stands before the content even when it says nothing; likewise the date of publication before the date of
-- the last change.
def entryOf? (feed : String) (element : Child) : Option Entry := do
  let record ← Record.ofElement? ["link", "category"] element
  let title ← record.once? "title" mixedText?
  let id ← record.once? "id" plainText?
  let links ← record.many? "link" link?
  let published ← record.once? "published" plainText?
  let updated ← record.once? "updated" plainText?
  let summary ← record.once? "summary" mixedText?
  let content ← record.once? "content" mixedText?
  let author ← record.once? "author" name?
  let categories ← record.many? "category" term?
  let pubDate := published.or updated
  some
    { feed, title := title.join, link := permalink links, guid := id, description := (summary.or content).join,
      author := author.join, pubDate, publishedAt := pubDate.bind date?, categories := categories.filterMap fun term => term }

def entries? (feed : String) (root : Child) : Option (List Entry) := do
  let record ← Record.ofElement? ["entry"] root
  record.many? "entry" (entryOf? feed)

end Harvester.Feed.Atom
