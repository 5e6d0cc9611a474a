import Harvester.Disk
import Harvester.Settings.Secret
namespace Harvester

inductive LoadFault
  | unreadable (path : String)
  | unparsable (format : Format)
  | secret (fault : SecretFault)
  | noSuchPath
deriving Repr, DecidableEq, Inhabited

def configPathVariable : String := "COLLECTOR_CONFIG_PATH"

def LoadFault.message : LoadFault → String
  | .unreadable path => "reading collector config from " ++ path
  | .unparsable format => "parsing collector config as " ++ format.name
  | .secret fault => "resolving secrets of job `" ++ fault.job ++ "`: " ++ fault.missing.message
  | .noSuchPath => configPathVariable ++ " points to non-existent path"

namespace Settings

-- What stands behind the last dot of the file name, in lower case. A dot at the name's beginning begins no extension.
def extension (path : String) : List Char :=
  let name := ((Disk.parts path).getLast?.getD "").toList
  let behind := (name.reverse.takeWhile (· != '.')).reverse
  if behind.length + 1 < name.length then behind.map Text.lowerAscii else []

-- By the extension; a file with another one is JSON if it begins with a brace.
def formatOf (path text : String) : Format :=
  let ext := extension path
  if ext = "toml".toList then .toml
  else if ext = "json".toList then .json
  else if (Text.trimStart text.toList).head? = some '{' then .json
  else .toml

def ofText (env : Environment) (format : Format) (text : String) : Except LoadFault Settings :=
  match parse? format text with
  | none => .error (.unparsable format)
  | some settings =>
    match settings.resolve env with
    | .ok resolved => .ok resolved
    | .error fault => .error (.secret fault)

def load (disk : Disk) (env : Environment) (path : String) : Except LoadFault Settings :=
  match disk.look path with
  | .file text => ofText env (formatOf path text) text
  | _ => .error (.unreadable path)

def isThere (disk : Disk) (path : String) : Bool :=
  match disk.look path with
  | .file _ | .folder => true
  | .missing | .blocked => false

-- The path that the environment names, else the first of the usual places, else no jobs at all.
def loadDefault (disk : Disk) (env : Environment) : Except LoadFault Settings :=
  match env.get? configPathVariable with
  | some path => if isThere disk path then load disk env path else .error .noSuchPath
  | none =>
    if isThere disk "config/collector.toml" then load disk env "config/collector.toml"
    else if isThere disk "config/collector.json" then load disk env "config/collector.json"
    else .ok .standard

end Settings

end Harvester
