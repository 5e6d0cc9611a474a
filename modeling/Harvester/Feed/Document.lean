import Harvester.Feed.Atom
import Harvester.Feed.Rss
namespace Harvester.Feed

open Xml

-- References of HTML that feeds use although no feed declares them, and the plain text each stands for.
def looseNames : List (List Char × List Char) :=
  [("&nbsp;".toList, [' ']), ("&ndash;".toList, ['-']), ("&mdash;".toList, ['-']), ("&ldquo;".toList, ['"']),
    ("&rdquo;".toList, ['"']), ("&lsquo;".toList, ['\'']), ("&rsquo;".toList, ['\''])]

-- One name after the other is replaced throughout the text.
def scrub (cs : List Char) : List Char :=
  looseNames.foldl (fun cs name => Text.replaceAll name.1 name.2 cs) cs

inductive Dialect
  | rss | atom
deriving Repr, DecidableEq, Inhabited

def Dialect.name : Dialect → String
  | .rss => "rss feed"
  | .atom => "atom feed"

-- A document whose root is called `feed` is Atom, every other one is taken for RSS.
def dialect (pieces : List Piece) : Dialect :=
  if rootName? pieces = some "feed".toList then .atom else .rss

def Dialect.entries? (dialect : Dialect) (feed : String) (root : Child) : Option (List Entry) :=
  match dialect with
  | .atom => Atom.entries? feed root
  | .rss => Rss.entries? feed root

def entries? (dialect : Dialect) (feed : String) (pieces : List Piece) : Option (List Entry) :=
  match root? pieces with
  | some (.element name attributes content) => dialect.entries? feed ⟨name, attributes, content, false⟩
  | _ => none

-- All entries of a feed, or the dialect in which it could not be read.
def parse (feed text : String) : Except Dialect (List Entry) :=
  let pieces := Xml.pieces (scrub text.toList)
  let dialect := dialect pieces
  match entries? dialect feed pieces with
  | some entries => .ok entries
  | none => .error dialect

end Harvester.Feed
