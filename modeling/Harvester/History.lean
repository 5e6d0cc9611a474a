import Harvester.Disk
import Harvester.Parameters
namespace Harvester

inductive HistoryFault
  | unreadable (path detail : String)
  | unparsable (path : String)
  | noFolder (path : String)
  | unwritable (path : String)
  | other (text : String)
deriving Repr, DecidableEq, Inhabited

namespace HistoryFault

def message : HistoryFault → String
  | .unreadable path _ => "reading " ++ path
  | .unparsable path => "parsing run history " ++ path
  | .noFolder path => "creating " ++ path
  | .unwritable path => "writing " ++ path
  | .other text => text

def cause : HistoryFault → Option String
  | .unreadable _ detail => some detail
  | .unparsable _ => some "not an object of parameters by job"
  | .noFolder _ => some "a file is in the way"
  | .unwritable _ => some "no file can be written there"
  | .other _ => none

-- The message with its cause.
def inFull (fault : HistoryFault) : String :=
  match fault.cause with
  | none => fault.message
  | some cause => fault.message ++ ": " ++ cause

end HistoryFault

-- The parameters of every job's last run.
abbrev LastRuns := Keyed Parameters

namespace LastRuns

def toJson (runs : LastRuns) : Json := .obj (runs.entries.map fun entry => (entry.1, Parameters.toJson entry.2))

def ofJson? : Json → Option LastRuns
  | .obj fields =>
    (fields.mapM fun (field : String × Json) =>
      (Parameters.ofJson? field.2).map fun params => (field.1, params)).map Keyed.ofList
  | _ => none

def encode (runs : LastRuns) : String := Json.toPrettyText (toJson runs)

-- A blank text is an empty history.
def decode? (text : String) : Option LastRuns :=
  if Text.trimmed text = "" then some .empty else (Json.parse? text).bind ofJson?

end LastRuns

-- Where last runs are kept. `last` only looks.
structure History (η : Type) where
  last : String → η → Except HistoryFault (Option Parameters)
  record : String → Parameters → η → Except HistoryFault Unit × η

namespace History

def memory : History LastRuns where
  last job runs := .ok (runs.get? job)
  record job params runs := (.ok (), runs.insert job params)

-- A file that does not exist is an empty history.
def readFile (path : String) (disk : Disk) : Except HistoryFault LastRuns :=
  match disk.look path with
  | .missing => .ok .empty
  | .folder => .error (.unreadable path "it is a folder")
  | .blocked => .error (.unreadable path "a file is in the way")
  | .file text =>
    match LastRuns.decode? text with
    | some runs => .ok runs
    | none => .error (.unparsable path)

-- The disk with the folders around the file.
def prepared (path : String) (disk : Disk) : Except HistoryFault Disk :=
  match Disk.folderOf? path with
  | none => .ok disk
  | some folder =>
    match disk.createFolders folder with
    | some ready => .ok ready
    | none => .error (.noFolder folder)

-- The whole history is written.
def writeFile (path : String) (runs : LastRuns) (disk : Disk) : Except HistoryFault Unit × Disk :=
  match prepared path disk with
  | .error fault => (.error fault, disk)
  | .ok ready =>
    match ready.write path runs.encode with
    | some written => (.ok (), written)
    | none => (.error (.unwritable path), ready)

-- Kept in one file, which is read in full before it is written anew.
def file (path : String) : History Disk where
  last job disk := (readFile path disk).map fun runs => runs.get? job
  record job params disk :=
    match readFile path disk with
    | .error fault => (.error fault, disk)
    | .ok runs => writeFile path (runs.insert job params) disk

end History

end Harvester
