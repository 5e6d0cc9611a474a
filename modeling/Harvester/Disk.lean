import Harvester.Keyed
import Harvester.Text.Blank
namespace Harvester

inductive DiskEntry
  | file (text : String)
  | folder
deriving Repr, DecidableEq, Inhabited

-- Files and folders by their path from the working folder, which is always there itself.
structure Disk where
  entries : Keyed DiskEntry
deriving Repr, DecidableEq, Inhabited

-- What stands at a path. `blocked` means that a file stands where a folder should be.
inductive Found
  | file (text : String)
  | folder
  | missing
  | blocked
deriving Repr, DecidableEq, Inhabited

namespace Disk

def empty : Disk := ⟨.empty⟩

def parts (path : String) : List String :=
  ((path.toList.splitOn '/').map String.ofList).filter fun part => part != "" && part != "."

def joined (parts : List String) : String := "/".intercalate parts

-- Every folder on the way to the last part, outermost first.
def parents (parts : List String) : List String :=
  (List.range (parts.length - 1)).map fun i => joined (parts.take (i + 1))

def blocks (disk : Disk) (path : String) : Bool :=
  match disk.entries.get? path with
  | some (.file _) => true
  | _ => false

def look (disk : Disk) (path : String) : Found :=
  let parts := parts path
  if path = "" then .missing
  else if parts = [] then .folder
  else if (parents parts).any disk.blocks then .blocked
  else match disk.entries.get? (joined parts) with
    | some (.file text) => .file text
    | some .folder => .folder
    | none => .missing

def addFolder (disk : Disk) (path : String) : Disk :=
  match disk.entries.get? path with
  | none => ⟨disk.entries.insert path .folder⟩
  | some _ => disk

-- The folder and those around it, unless a file stands in the way.
def createFolders (disk : Disk) (path : String) : Option Disk :=
  let parts := parts path
  let wanted := parents parts ++ (if parts = [] then [] else [joined parts])
  if wanted.any disk.blocks then none else some (wanted.foldl addFolder disk)

-- Nothing is written where no folder is around the file or a folder has its name.
def write (disk : Disk) (path text : String) : Option Disk :=
  let parts := parts path
  if (parents parts).all fun folder => disk.entries.get? folder = some .folder then
    match disk.look path with
    | .file _ => some ⟨disk.entries.insert (joined parts) (.file text)⟩
    | .missing => if parts = [] then none else some ⟨disk.entries.insert (joined parts) (.file text)⟩
    | .folder => none
    | .blocked => none
  else none

-- The folder part of a path, if it has one.
def folderOf? (path : String) : Option String :=
  let parts := parts path
  if parts.length ≤ 1 then none else some (joined parts.dropLast)

end Disk

end Harvester
