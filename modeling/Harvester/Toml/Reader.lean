import Harvester.Toml.Scalar
import Harvester.Toml.Table
namespace Harvester.Toml

-- Arrays and inline tables within each other go no deeper than this.
def deepest : Nat := 80

-- Every nested value and every element behind a comma costs one unit of fuel; no text has more of them than
-- characters. `room` is how much deeper arrays and inline tables may still go.
mutual
def value? : Nat → Nat → List Char → Option (Json × List Char)
  | 0, _, _ => none
  | _ + 1, 0, '[' :: _ => none
  | fuel + 1, room + 1, '[' :: rest => (elements? fuel room rest).map fun (items, rest) => (.arr items, rest)
  | _ + 1, 0, '{' :: _ => none
  | fuel + 1, room + 1, '{' :: rest =>
    (members? fuel room [] rest).map fun (entries, rest) => (.obj (fieldsOf entries), rest)
  | _ + 1, _, cs => scalar? cs
def elements? : Nat → Nat → List Char → Option (List Json × List Char)
  | 0, _, _ => none
  | fuel + 1, room, cs => do
    match ← skipLoose false cs with
    | ']' :: rest => some ([], rest)
    | cs =>
      let (first, rest) ← value? fuel room cs
      match ← skipLoose false rest with
      | ',' :: rest => do
        let (others, rest) ← elements? fuel room rest
        some (first :: others, rest)
      | ']' :: rest => some ([first], rest)
      | _ => none
def members? : Nat → Nat → Entries → List Char → Option (Entries × List Char)
  | 0, _, _, _ => none
  | fuel + 1, room, entries, cs => do
    match ← skipLoose false cs with
    | '}' :: rest => some (entries, rest)
    | cs =>
      let (key, rest) ← key? cs.length cs
      match ← skipLoose false rest with
      | '=' :: rest => do
        let (v, rest) ← value? fuel room (← skipLoose false rest)
        let grown ← Entries.define v key entries
        match ← skipLoose false rest with
        | ',' :: rest => members? fuel room grown rest
        | '}' :: rest => some (grown, rest)
        | _ => none
      | _ => none
end

-- One line with a header in it: the path behind the brackets, and the rest behind the closing ones.
def header? (closing : List Char) (cs : List Char) : Option (List String × List Char) := do
  let (key, rest) ← key? cs.length cs
  let rest ← if Text.startsWith closing rest then some (rest.drop closing.length) else none
  some (key, ← lineEnd? rest)

def assignment? (cs : List Char) : Option (List String × Json × List Char) := do
  let (key, rest) ← key? cs.length cs
  match rest with
  | '=' :: rest => do
    let (v, rest) ← value? (rest.length + 1) deepest (skipSpace rest)
    some (key, v, ← lineEnd? rest)
  | _ => none

-- Line by line, with the table that the last header opened.
def lines? : Nat → List String → Entries → List Char → Option Entries
  | 0, _, _, _ => none
  | fuel + 1, path, root, cs =>
    match skipSpace cs with
    | [] => some root
    | '[' :: '[' :: rest => do
      let (key, rest) ← header? [']', ']'] rest
      lines? fuel key (← Entries.openElement key root) rest
    | '[' :: rest => do
      let (key, rest) ← header? [']'] rest
      lines? fuel key (← Entries.openTable key root) rest
    | c :: rest =>
      if c = '#' ∨ c = '\n' ∨ c = '\r' then do lines? fuel path root (← lineEnd? (c :: rest))
      else do
        let (key, v, rest) ← assignment? (c :: rest)
        lines? fuel path (← Entries.within (Entries.define v key) path root) rest

def withoutMark : List Char → List Char
  | c :: rest => if c.toNat = 0xFEFF then rest else c :: rest
  | [] => []

-- The table a document spells, as an object.
def parse? (text : String) : Option Json :=
  let cs := withoutMark text.toList
  (lines? (cs.length + 1) [] [] cs).map fun entries => .obj (fieldsOf entries)

end Harvester.Toml
