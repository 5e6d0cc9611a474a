import Harvester.Item
namespace Harvester

-- Why a source delivered nothing.
inductive FetchError
  | transport (detail : String)
  | status (url : String) (code : Nat)
  | malformed (what detail : String)
  | markup (url detail : String)
  | remote (report : String)
deriving Repr, DecidableEq, Inhabited

def FetchError.message : FetchError → String
  | .transport detail => "transport error: " ++ detail
  | .status url code => url ++ " returned HTTP " ++ toString code
  | .malformed what detail => "malformed " ++ what ++ " response: " ++ detail
  | .markup url detail => "unexpected markup at " ++ url ++ ": " ++ detail
  | .remote report => "remote reported failure: " ++ report

-- Why the store did not take an item. A duplicate is no failure of the store.
inductive Refusal
  | duplicate
  | failed (status : Option Nat) (detail : String)
deriving Repr, DecidableEq, Inhabited

def statusNote : Option Nat → String
  | none => ""
  | some code => " (HTTP " ++ toString code ++ ")"

def Refusal.message : Refusal → String
  | .duplicate => "duplicate item"
  | .failed status detail => "write failed" ++ statusNote status ++ ": " ++ detail

structure UnknownJob where
  job : String
deriving Repr, DecidableEq, Inhabited

def UnknownJob.message (u : UnknownJob) : String := "no adapter registered for job `" ++ u.job ++ "`"

end Harvester
