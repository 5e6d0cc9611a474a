import Harvester.Contest.Table
import Harvester.Html.Construction
import Harvester.Html.Selection
namespace Harvester.Contest

open Html

def linkOf? (cell : Tree) : Option Link :=
  (cell.elements "a").findSome? fun a =>
    (a.attribute? "href").bind fun href =>
      if Text.startsWith linkStart href.toList then some ⟨href, a.shownText⟩ else none

def cellOf (cell : Tree) : Cell where
  text := cell.shownText
  link := linkOf? cell
  time := (cell.elements "time").head?.map Tree.shownText

-- The rows of the first element that carries the id of the table of upcoming contests: every table row within a table
-- body, each as its cells, however deep they stand.
def tableOf? (page : Tree) : Option (List Row) :=
  (page.withId? "contest-table-upcoming" "tbody" false).map fun (inside, table) =>
    (table.elementsWithin "tbody" "tr" inside).map fun row => (row.elements "td").map cellOf

def ofPage (origin : String) (page : String) : Except Fault (List Contest) := ofTable origin (tableOf? (document page))

end Harvester.Contest
