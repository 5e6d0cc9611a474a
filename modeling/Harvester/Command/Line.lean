import Harvester.Instant
import Harvester.Journal
import Harvester.Json.Writer
namespace Harvester

-- Log records as lines of the log, in one of two forms.

namespace LogRecord

def levelWidth : Nat := 5

def fieldJson (shown : Shown) : Json :=
  match shown with
  | .text s => .str s
  | .number n => .int n

-- One JSON object; the message stands among the fields.
def jsonLine (at_ : Instant) (record : LogRecord) : String :=
  Json.toText (.obj [("timestamp", .str at_.render), ("level", .str record.level.name),
    ("fields", .obj (("message", .str record.message) :: record.fields.map fun field => (field.1, fieldJson field.2))),
    ("target", .str record.target)])

def levelText (level : Level) : String := "".pushn ' ' (levelWidth - level.name.length) ++ level.name

-- For reading: the level, who says it, the message, and the fields behind it.
def plainLine (at_ : Instant) (record : LogRecord) : String :=
  at_.render ++ " " ++ levelText record.level ++ " " ++ record.target ++ ": " ++ record.message ++
    String.join (record.fields.map fun field => " " ++ field.1 ++ "=" ++ field.2.toText)

end LogRecord

end Harvester
