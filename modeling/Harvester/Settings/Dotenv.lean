import Harvester.Settings.Secret
namespace Harvester.Dotenv

open Text

-- Variables from a file of assignments. A value may be quoted over several lines, so that the file is first cut into
-- logical lines.

-- Where the cut stands within a line.
inductive Cut
  | complete | blank | escape | weak | weakEscape | strong | strongEscape | comment
deriving Repr, DecidableEq, Inhabited

def Cut.step (cut : Cut) (c : Char) : Cut :=
  match cut with
  | .blank =>
    if c = '#' then .comment else if c = '\\' then .escape else if c = '"' then .weak
    else if c = '\'' then .strong else .complete
  | .escape => .complete
  | .complete =>
    if isBlank c ∧ c ≠ '\n' ∧ c ≠ '\r' then .blank
    else if c = '\\' then .escape else if c = '"' then .weak else if c = '\'' then .strong else .complete
  | .weak => if c = '\\' then .weakEscape else if c = '"' then .complete else .weak
  | .weakEscape => .weak
  | .strong => if c = '\\' then .strongEscape else if c = '\'' then .complete else .strong
  | .strongEscape => .strong
  | .comment => .comment

-- The characters before a comment, and the state behind the last character or at the comment.
def scan (cut : Cut) (before : List Char) : List Char → List Char × Cut
  | [] => (before.reverse, cut)
  | c :: rest =>
    match cut.step c with
    | .comment => (before.reverse, .comment)
    | next => scan next (c :: before) rest

def withoutEnd (line : List Char) : List Char :=
  match line.reverse with
  | '\n' :: '\r' :: rest => rest.reverse
  | '\n' :: rest => rest.reverse
  | _ => line

-- The lines as they stand, each with its end.
def rawLines (line : List Char) : List Char → List (List Char)
  | [] => if line.isEmpty then [] else [line.reverse]
  | c :: rest => if c = '\n' then (c :: line).reverse :: rawLines [] rest else rawLines (c :: line) rest

-- Logical lines; `none` is one that never ends. A line that begins with `#` when nothing is open or, with what is open
-- before it, still begins so, is empty.
def logical (opened : List Char) (cut : Cut) : List (List Char) → List (Option (List Char))
  | [] => if cut = .complete then [] else [none]
  | line :: rest =>
    if (trimStart (opened ++ line)).head? = some '#' then some [] :: logical [] .complete rest
    else
      match scan cut [] line with
      | (_, .complete) => some (withoutEnd (opened ++ line)) :: logical [] .complete rest
      | (kept, .comment) => some (opened ++ kept) :: logical [] .complete rest
      | (_, next) => logical (opened ++ line) next rest

def startsKey (c : Char) : Bool := ('a' ≤ c && c ≤ 'z') || ('A' ≤ c && c ≤ 'Z') || c == '_'

def continuesKey (c : Char) : Bool := startsKey c || isDigit c || c == '.'

def key? (cs : List Char) : Option (List Char × List Char) :=
  match cs with
  | c :: _ => if startsKey c then some (cs.takeWhile continuesKey, trimStart (cs.dropWhile continuesKey)) else none
  | [] => none

def afterEqual? : List Char → Option (List Char)
  | '=' :: rest => some rest
  | _ => none

-- The name and the text of its value. `export` may stand in front of the name, or be the name.
def assignment? (cs : List Char) : Option (List Char × List Char) := do
  let (key, rest) ← key? cs
  match afterEqual? rest with
  | some value => some (key, trimStart value)
  | none =>
    if key = "export".toList then do
      let (key, rest) ← key? rest
      some (key, trimStart (← afterEqual? rest))
    else none

-- How a value is being read: within quotes, behind a backslash, behind the blank that ends it, or within the name of a
-- variable, bare or in braces.
inductive Mode
  | plain | escaped | ended | name | braced
deriving Repr, DecidableEq, Inhabited

structure Reading where
  mode : Mode
  weak : Bool
  strong : Bool
  name : List Char
  out : List Char
deriving Repr, Inhabited

def Reading.start : Reading := ⟨.plain, false, false, [], []⟩

def isNameChar (c : Char) : Bool := isDigit c || ('a' ≤ c && c ≤ 'z') || ('A' ≤ c && c ≤ 'Z') || c.toNat > 0x7F

def Reading.push (r : Reading) (c : Char) : Reading := { r with out := c :: r.out }

-- The value of the variable whose name is complete; an unknown one is empty.
def Reading.replace (known : String → Option String) (r : Reading) : Reading :=
  let value := (known (String.ofList r.name.reverse)).getD ""
  { r with mode := .plain, name := [], out := value.toList.reverse ++ r.out }

def Reading.plain (r : Reading) (c : Char) : Reading :=
  if c = '$' then { r with mode := .name }
  else if r.weak then
    if c = '"' then { r with weak := false } else if c = '\\' then { r with mode := .escaped } else r.push c
  else if c = '\'' then { r with strong := true }
  else if c = '"' then { r with weak := true }
  else if c = '\\' then { r with mode := .escaped }
  else if c = ' ' ∨ c = '\t' then { r with mode := .ended }
  else r.push c

def escape? (c : Char) : Option Char :=
  if "\\'\"$ ".toList.contains c then some c else if c = 'n' then some '\n' else none

def Reading.step (known : String → Option String) (r : Reading) (c : Char) : Option Reading :=
  match r.mode with
  | .ended => if c = ' ' ∨ c = '\t' then some r else none
  | .escaped => (escape? c).map fun e => { r.push e with mode := .plain }
  | .name =>
    if isNameChar c then some { r with name := c :: r.name }
    else if c = '{' ∧ r.name = [] then some { r with mode := .braced }
    else if c = '$' then some { r.replace known with mode := .name }
    else some ((r.replace known).push c)
  | .braced => if c = '}' then some (r.replace known) else some { r with name := c :: r.name }
  | .plain =>
    if r.strong then some (if c = '\'' then { r with strong := false } else r.push c) else some (r.plain c)

-- A comment behind the blank that ends a value is not looked at.
def read? (known : String → Option String) (r : Reading) : List Char → Option Reading
  | [] => some r
  | c :: rest => if r.mode = .ended ∧ c = '#' then some r else (r.step known c).bind fun r => read? known r rest

def value? (known : String → Option String) (cs : List Char) : Option String :=
  (read? known .start cs).bind fun r =>
    if r.mode = .braced ∨ r.strong ∨ r.weak then none else some (String.ofList (r.replace known).out.reverse)

-- One logical line: nothing, or a name with its value.
def line? (known : String → Option String) (line : List Char) : Option (Option (String × String)) :=
  let cs := trimStart line
  if cs = [] ∨ cs.head? = some '#' then some none
  else (assignment? cs).bind fun (key, value) =>
    if value = [] ∨ value.head? = some '#' then some (some (String.ofList key, ""))
    else (value? known value).map fun v => some (String.ofList key, v)

-- What is set already stays. The first line that cannot be read ends the file. `written` are the values as the file
-- gives them; where the environment has none, they are what a name in a later value stands for.
def fill (env : Environment) (written : Environment) : List (Option (List Char)) → Environment
  | [] => env
  | none :: _ => env
  | some line :: rest =>
    let known (name : String) := (env.get? name).or (written.get? name)
    match line? known line with
    | none => env
    | some none => fill env written rest
    | some (some (key, value)) =>
      fill (if (env.get? key).isSome then env else env.insert key value) (written.insert key value) rest

def withoutMark : List Char → List Char
  | c :: rest => if c.toNat = 0xFEFF then rest else c :: rest
  | [] => []

-- The environment with the gaps filled from a file.
def apply (env : Environment) (text : String) : Environment :=
  fill env Keyed.empty (logical [] .complete (rawLines [] (withoutMark text.toList)))

end Harvester.Dotenv
