import Harvester.Parameters
namespace Harvester

def runIdKey : String := "run.id"
def baseDateKey : String := "baseDate"

-- One execution of a job, fixed before it starts.
structure Run where
  job : String
  id : Long
  baseDate : Option String
  params : Parameters
deriving Repr, DecidableEq, Inhabited

namespace Run

def page (run : Run) : Option Long := run.params.getLong? "page"
def perPage (run : Run) : Option Long := run.params.getLong? "perPage"
def cursor (run : Run) : Option String := run.params.getText? "cursor"
def subreddit (run : Run) : Option String := run.params.getText? "subreddit"
def query (run : Run) : Option String := run.params.getText? "query"
def tag (run : Run) : Option String := run.params.getText? "tag"
def from? (run : Run) : Option String := run.params.getText? "from"
def gym (run : Run) : Option Bool := (run.params.get? "gym").bind Param.flag?

-- Job name and run id, as events and messages name a run.
def jobId (run : Run) : String := run.job ++ "#" ++ run.id.text

-- What is kept for the next run.
def toParameters (run : Run) : Parameters :=
  let withId := run.params.insert runIdKey (.long run.id)
  match run.baseDate with
  | none => withId
  | some date => withId.insert baseDateKey (.text date)

-- The id of the last run; 0 when there was none or its id does not read as a number.
def priorId (prior : Option Parameters) : Long :=
  ((prior.bind fun p => p.getLong? runIdKey)).getD Long.zero

-- Only the id comes from the last run. The supplied parameters pass through, apart from an id among them.
def following (job : String) (prior : Option Parameters) (supplied : Parameters) : Run where
  job := job
  id := (priorId prior).next
  baseDate := supplied.getText? baseDateKey
  params := supplied.filter fun key => key != runIdKey && key != baseDateKey

end Run

end Harvester
