import Harvester.Json.Field
import Harvester.Json.Reader
import Harvester.Http.Network
namespace Harvester.Http

-- A JSON body: `none` where it is no such document, no data where it is blank or null.
def readDocument? (read : Json → Option α) (body : String) : Option (Option α) :=
  let text := Text.trimmed body
  if text = "" ∨ text = "null" then some none else ((Json.parse? text).bind read).map some

def documentOf (what : String) (read : Json → Option α) (body : String) : Except FetchError (Option α) :=
  match readDocument? read body with
  | some data => .ok data
  | none => .error (.malformed what "not the expected document")

def Reply.document (what : String) (read : Json → Option α) (reply : Reply) : Except FetchError (Option α) :=
  match reply.success with
  | .ok body => documentOf what read body
  | .error e => .error e

-- A base address without the slashes at its end.
def trimBase (base : String) : String := String.ofList ((base.toList.reverse.dropWhile (· == '/')).reverse)

end Harvester.Http
