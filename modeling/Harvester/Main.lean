import Harvester.Command.Line
import Harvester.Command.Run
import Std.Time.DateTime.Timestamp
namespace Harvester.Main

open Http

-- The command on a machine: its environment, its files, its clock and its standard output. No network is connected here,
-- so every source and every sink behaves as if it could not be reached.

def moment : IO Instant := do
  let t ← Std.Time.Timestamp.now
  pure ⟨t.val.second.val, t.val.nano.val.toNat⟩

def readText? (path : String) : IO (Option String) :=
  try some <$> IO.FS.readFile path catch _ => pure none

def variableOf (entry : List Char) : String × String :=
  (String.ofList (entry.takeWhile (· != '=')), String.ofList ((entry.dropWhile (· != '=')).drop 1))

def environment : IO Environment := do
  let text := (← readText? "/proc/self/environ").getD ""
  let entries := (text.splitOn "\x00").filter fun entry => entry != ""
  pure (Keyed.ofList (entries.map fun entry => variableOf entry.toList))

-- The disk with a file of the machine on it, if it is there.
def withFile (disk : Disk) (path : String) : IO Disk := do
  match ← readText? path with
  | none => pure disk
  | some text =>
    let ready := ((Disk.folderOf? path).bind disk.createFolders).getD disk
    pure ((ready.write path text).getD ready)

def surroundings : IO Surroundings := do
  let env ← environment
  let disk ← [".env", "config/collector.toml", "config/collector.json"].foldlM withFile Disk.empty
  let s : Surroundings := ⟨env, disk, Network.offline, ← moment⟩
  match (Command.withDotenv s).env.get? configPathVariable with
  | some path => pure { s with disk := ← withFile disk path }
  | none => pure s

-- A file that changed is written out, in its folder.
def keep (path : String) (before after : Disk) : IO Unit := do
  match before.look path, after.look path with
  | _, .file text =>
    if before.look path = .file text then pure ()
    else
      if let some folder := Disk.folderOf? path then
        IO.FS.createDirAll (if path.toList.head? = some '/' then "/" ++ folder else folder)
      IO.FS.writeFile path text
  | _, _ => pure ()

def print (s : Surroundings) (notes : List Note) : IO Unit := do
  let output ← IO.getStdout
  let at_ ← moment
  for record in Command.shown s notes do
    output.putStrLn (if Command.isJson (Command.withDotenv s).env then record.jsonLine at_ else record.plainLine at_)
  output.flush

-- Ticks for as long as the process lives. The history is read before every tick and written after it.
partial def serve (setup : Command.Setup) (world : World Unit) : IO Unit := do
  let path := setup.settings.schedule.historyPath
  let disk ← withFile Disk.empty path
  let quiet := { world with journal := Journal.empty }
  let (after, kept) := setup.collector.tick setup.history (← moment) quiet disk
  print setup.surroundings after.journal.notes
  keep path disk kept
  IO.sleep (UInt32.ofNat (min (max setup.settings.schedule.intervalSecs 1 * 1000) 4294967295))
  serve setup after

def work (setup : Command.Setup) : IO Unit := do
  let path := setup.settings.schedule.historyPath
  let s := setup.surroundings
  if Command.runOnce s.env then
    let before ← withFile s.disk path
    let finished := { setup with surroundings := { s with disk := before } }.once
    print s finished.notes
    keep path before finished.disk
  else
    print s setup.notes
    serve setup setup.begin

end Harvester.Main

def main : IO UInt32 := do
  let s ← Harvester.Main.surroundings
  match Harvester.Command.setUp s with
  | .error finished =>
    Harvester.Main.print s finished.notes
    IO.eprintln ("Error: " ++ finished.error.getD "")
    pure 1
  | .ok setup =>
    Harvester.Main.work setup
    pure 0
