import Harvester.Journal
import Harvester.Text.Blank
namespace Harvester

open Text

-- Which log records are shown: directives that give targets, by what their names begin with, the least level that is
-- shown. `none` shows nothing.
structure Directive where
  target : List Char
  level : Option Level
deriving Repr, DecidableEq, Inhabited

abbrev LogFilter := List Directive

namespace LogFilter

def rank : Level → Nat
  | .debug => 1
  | .info => 2
  | .warn => 3
  | .error => 4

-- A level's name or number; `trace` shows as much as `debug` does.
def level? (cs : List Char) : Option (Option Level) :=
  let word := String.ofList (cs.map lowerAscii)
  if word = "off" ∨ word = "0" then some none
  else if word = "error" ∨ word = "1" then some (some .error)
  else if word = "warn" ∨ word = "2" then some (some .warn)
  else if word = "info" ∨ word = "3" then some (some .info)
  else if word = "debug" ∨ word = "4" ∨ word = "trace" ∨ word = "5" then some (some .debug)
  else none

def isTargetChar (c : Char) : Bool :=
  isDigit c || ('a' ≤ c && c ≤ 'z') || ('A' ≤ c && c ≤ 'Z') || c == '_' || c == ':' || c == '-' || c == '.'

-- A level alone holds for every target; a target without a level shows everything of it.
def directive? (cs : List Char) : Option Directive :=
  let left := cs.takeWhile (· != '=')
  let isTarget := !left.isEmpty && left.all isTargetChar
  match cs.dropWhile (· != '=') with
  | [] =>
    match level? left with
    | some level => some ⟨[], level⟩
    | none => if isTarget then some ⟨left, some .debug⟩ else none
  | [_] => if isTarget then some ⟨left, some .debug⟩ else none
  | _ :: right => if isTarget then (level? right).map fun level => ⟨left, level⟩ else none

def pieces (piece : List Char) : List Char → List (List Char)
  | [] => [piece.reverse]
  | c :: rest => if c = ',' then piece.reverse :: pieces [] rest else pieces (c :: piece) rest

-- Directives with commas between them. No directive at all leaves the errors.
def parse? (text : String) : Option LogFilter :=
  let parts := ((pieces [] text.toList).map trim).filter fun piece => !piece.isEmpty
  if parts.isEmpty then some [⟨[], some .error⟩] else parts.mapM directive?

def standard : LogFilter := [⟨"devfeed_collector".toList, some .info⟩, ⟨[], some .warn⟩]

-- The directive whose target says most decides; of two with the same target, the later.
def better (target : List Char) (best : Option Directive) (d : Directive) : Option Directive :=
  if startsWith d.target target then
    match best with
    | some b => if b.target.length ≤ d.target.length then some d else some b
    | none => some d
  else best

def shows (filter : LogFilter) (record : LogRecord) : Bool :=
  match filter.foldl (better record.target.toList) none with
  | some ⟨_, some level⟩ => rank level ≤ rank record.level
  | _ => false

end LogFilter

end Harvester
