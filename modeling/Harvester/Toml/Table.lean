import Harvester.Json.Value
namespace Harvester.Toml

-- How a table came to be: by its own header, on the way to another header, or by a dotted key.
inductive TableKind
  | header | passing | dotted
deriving Repr, DecidableEq, Inhabited

-- A document that is being put together. Values, arrays and inline tables among them, are closed; tables may still
-- grow. An array of tables grows at its last element, which is kept first.
inductive Node
  | value (v : Json)
  | table (kind : TableKind) (entries : List (String × Node))
  | tables (newest : List (List (String × Node)))
deriving Inhabited

abbrev Entries := List (String × Node)

mutual
def Node.toJson : Node → Json
  | .value v => v
  | .table _ entries => .obj (fieldsOf entries)
  | .tables newest => .arr (recordsOf newest).reverse
def fieldsOf : List (String × Node) → List (String × Json)
  | [] => []
  | (key, node) :: rest => (key, node.toJson) :: fieldsOf rest
def recordsOf : List (List (String × Node)) → List Json
  | [] => []
  | entries :: rest => .obj (fieldsOf entries) :: recordsOf rest
end

namespace Entries

def find? (key : String) : Entries → Option Node
  | [] => none
  | (k, node) :: rest => if k = key then some node else find? key rest

-- In the place of the entry that has the key, else at the end.
def put (key : String) (node : Node) : Entries → Entries
  | [] => [(key, node)]
  | (k, old) :: rest => if k = key then (key, node) :: rest else (k, old) :: put key node rest

-- A value under a dotted key. The tables on the way must not have headers of their own, and the last of them must have
-- come from dotted keys.
def define (v : Json) : List String → Entries → Option Entries
  | [], _ => none
  | [key], entries =>
    match find? key entries with
    | none => some (put key (.value v) entries)
    | some _ => none
  | key :: next :: rest, entries =>
    match find? key entries with
    | none => (define v (next :: rest) []).map fun inner => put key (.table .dotted inner) entries
    | some (.table kind inner) =>
      if kind = .header ∨ (rest = [] ∧ kind ≠ .dotted) then none
      else (define v (next :: rest) inner).map fun inner => put key (.table kind inner) entries
    | some (.tables (last :: others)) =>
      if rest = [] then none
      else (define v (next :: rest) last).map fun last => put key (.tables (last :: others)) entries
    | some _ => none

-- A header opens its table once; one that was only passed before may still be opened.
def openTable : List String → Entries → Option Entries
  | [], _ => none
  | [key], entries =>
    match find? key entries with
    | none => some (put key (.table .header []) entries)
    | some (.table .passing inner) => some (put key (.table .header inner) entries)
    | some _ => none
  | key :: next :: rest, entries =>
    match find? key entries with
    | none => (openTable (next :: rest) []).map fun inner => put key (.table .passing inner) entries
    | some (.table kind inner) =>
      (openTable (next :: rest) inner).map fun inner => put key (.table kind inner) entries
    | some (.tables (last :: others)) =>
      (openTable (next :: rest) last).map fun last => put key (.tables (last :: others)) entries
    | some _ => none

-- A doubled header adds an element.
def openElement : List String → Entries → Option Entries
  | [], _ => none
  | [key], entries =>
    match find? key entries with
    | none => some (put key (.tables [[]]) entries)
    | some (.tables newest) => some (put key (.tables ([] :: newest)) entries)
    | some _ => none
  | key :: next :: rest, entries =>
    match find? key entries with
    | none => (openElement (next :: rest) []).map fun inner => put key (.table .passing inner) entries
    | some (.table kind inner) =>
      (openElement (next :: rest) inner).map fun inner => put key (.table kind inner) entries
    | some (.tables (last :: others)) =>
      (openElement (next :: rest) last).map fun last => put key (.tables (last :: others)) entries
    | some _ => none

-- A change in the table that a header has opened.
def within (change : Entries → Option Entries) : List String → Entries → Option Entries
  | [], entries => change entries
  | key :: rest, entries =>
    match find? key entries with
    | some (.table kind inner) => (within change rest inner).map fun inner => put key (.table kind inner) entries
    | some (.tables (last :: others)) =>
      (within change rest last).map fun last => put key (.tables (last :: others)) entries
    | _ => none

end Entries

end Harvester.Toml
