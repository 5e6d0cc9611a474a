import Harvester.Instant.Reading
namespace Harvester

-- A contest announced on the contest page.
structure Contest where
  slug : String
  title : String
  url : String
  startTime : Option Instant
  duration : Option String
  ratedRange : Option String
deriving Repr, DecidableEq, Inhabited

namespace Contest

-- A link to a contest page: its target as written, and the text it shows.
structure Link where
  href : String
  text : String
deriving Repr, DecidableEq, Inhabited

-- What matters of a table cell: its text, its first link to a contest, the text of its first time.
structure Cell where
  text : String
  link : Option Link
  time : Option String
deriving Repr, DecidableEq, Inhabited

abbrev Row := List Cell

-- Why a table is refused. Rows are counted from 0.
inductive Fault
  | noTable
  | fewCells (row cells : Nat)
  | noLink (row : Nat)
  | noSlug (row : Nat)
deriving Repr, DecidableEq, Inhabited

def Fault.message : Fault → String
  | .noTable => "upcoming contest table not found"
  | .fewCells row cells => "row " ++ toString row ++ " has " ++ toString cells ++ " cells"
  | .noLink row => "row " ++ toString row ++ " has no contest link"
  | .noSlug row => "row " ++ toString row ++ " has an empty contest slug"

def linkStart : List Char := "/contests/".toList

-- The start is taken away as often as it stands there; every round shortens the text, so its length is fuel enough.
def dropStarts (start : List Char) : Nat → List Char → List Char
  | 0, cs => cs
  | fuel + 1, cs =>
    match Text.dropPattern? start cs with
    | some rest => dropStarts start fuel rest
    | none => cs

-- The name of a contest within its link.
def slugOf (href : List Char) : List Char :=
  ((dropStarts linkStart href.length href).reverse.dropWhile (· == '/')).reverse

def shown? (cell : Option Cell) : Option String := (cell.map Cell.text).filter fun s => !s.isEmpty

def ofRow (origin : String) (index : Nat) (row : Row) : Except Fault Contest :=
  match row with
  | first :: second :: more =>
    match second.link with
    | none => .error (.noLink index)
    | some link =>
      let slug := slugOf link.href.toList
      if slug.isEmpty then .error (.noSlug index)
      else .ok
        { slug := String.ofList slug, title := link.text, url := origin ++ link.href,
          startTime := first.time.bind fun s => Instant.ofTable? (Text.trim s.toList), duration := shown? more[0]?,
          ratedRange := shown? more[1]? }
  | row => .error (.fewCells index row.length)

-- Every row gives a contest, or the first bad row is the answer.
def ofRows (origin : String) (index : Nat) : List Row → Except Fault (List Contest)
  | [] => .ok []
  | row :: rest =>
    match ofRow origin index row with
    | .error fault => .error fault
    | .ok contest =>
      match ofRows origin (index + 1) rest with
      | .error fault => .error fault
      | .ok contests => .ok (contest :: contests)

def ofTable (origin : String) (table : Option (List Row)) : Except Fault (List Contest) :=
  match table with
  | none => .error .noTable
  | some rows => ofRows origin 0 rows

end Contest

end Harvester
