import Harvester.Text.Blank
namespace Harvester.Xml

open Text

-- The blanks of markup are four; other white space is text.
def isSpace (c : Char) : Bool := c == ' ' || c == '\t' || c == '\n' || c == '\r'

-- The pieces of a document in order. Comments and processing instructions leave no piece behind, but they part the
-- text around them. `broken` is where the markup stops being any.
inductive Piece
  | text (raw : List Char)
  | cdata (raw : List Char)
  | doctype
  | start (name attributes : List Char)
  | close (name : List Char)
  | broken
deriving Repr, DecidableEq, Inhabited

-- Where the reader stands. Collected characters are held in reverse.
inductive Mode
  | text (raw : List Char)
  | angle
  | tag (closing : Bool) (quoteMark : Option Char) (raw : List Char)
  | bang
  | dash
  | comment (dashes : Nat)
  | cdataHead (left : List Char)
  | cdata (raw : List Char)
  | doctypeHead (left : List Char)
  | doctype (open_ : Nat) (named : Bool)
  | instruction (empty question : Bool)
  | stopped
deriving Repr, DecidableEq, Inhabited

-- A tag names its element up to the first blank. A slash before the closing bracket also closes the element.
def startPieces (content : List Char) : List Piece :=
  let closed := content.getLast? == some '/'
  let content := if closed then content.dropLast else content
  let name := content.takeWhile fun c => !isSpace c
  .start name (content.dropWhile fun c => !isSpace c) :: if closed then [.close name] else []

-- Blanks behind the name do not count, unless there is nothing else.
def closeName (content : List Char) : List Char :=
  let name := (content.reverse.dropWhile isSpace).reverse
  if name.isEmpty then content else name

def tagPieces (closing : Bool) (raw : List Char) : List Piece :=
  if closing then [.close (closeName raw.reverse)] else startPieces raw.reverse

def textPieces (raw : List Char) : List Piece := if raw.isEmpty then [] else [.text raw.reverse]

-- A closing bracket inside quotes does not end the tag.
def tagStep (closing : Bool) (quoteMark : Option Char) (raw : List Char) (c : Char) : List Piece × Mode :=
  match quoteMark with
  | some q => ([], .tag closing (if c = q then none else some q) (c :: raw))
  | none =>
    if c = '>' then (tagPieces closing raw, .text [])
    else ([], .tag closing (if c = '"' ∨ c = '\'' then some c else none) (c :: raw))

def failed : List Piece × Mode := ([.broken], .stopped)

-- One character: the pieces it completes, and where the reader stands afterwards.
def step (mode : Mode) (c : Char) : List Piece × Mode :=
  match mode with
  | .text raw => if c = '<' then (textPieces raw, .angle) else ([], .text (c :: raw))
  | .angle =>
    if c = '!' then ([], .bang)
    else if c = '/' then ([], .tag true none [])
    else if c = '?' then ([], .instruction true true)
    else tagStep false none [] c
  | .tag closing quoteMark raw => tagStep closing quoteMark raw c
  | .bang =>
    if c = '-' then ([], .dash)
    else if c = '[' then ([], .cdataHead ['C', 'D', 'A', 'T', 'A', '['])
    else if lowerAscii c = 'd' then ([], .doctypeHead ['o', 'c', 't', 'y', 'p', 'e'])
    else failed
  | .dash => if c = '-' then ([], .comment 0) else failed
  | .comment dashes =>
    if c = '-' then ([], .comment (min 2 (dashes + 1)))
    else if c = '>' ∧ dashes = 2 then ([], .text []) else ([], .comment 0)
  | .cdataHead left =>
    match left with
    | [l] => if c = l then ([], .cdata []) else failed
    | l :: rest => if c = l then ([], .cdataHead rest) else failed
    | [] => failed
  | .cdata raw =>
    match c, raw with
    | '>', ']' :: ']' :: rest => ([.cdata rest.reverse], .text [])
    | c, raw => ([], .cdata (c :: raw))
  | .doctypeHead left =>
    match left with
    | [l] => if lowerAscii c = l then ([], .doctype 0 false) else failed
    | l :: rest => if lowerAscii c = l then ([], .doctypeHead rest) else failed
    | [] => failed
  | .doctype open_ named =>
    if c = '>' then
      match open_ with
      | 0 => if named then ([.doctype], .text []) else failed
      | n + 1 => ([], .doctype n true)
    else ([], .doctype (if c = '<' then open_ + 1 else open_) (named || !isSpace c))
  | .instruction empty question =>
    if c = '>' ∧ question then (if empty then failed else ([], .text []))
    else ([], .instruction false (c == '?'))
  | .stopped => ([], .stopped)

-- The text may end only between two markups.
def ending : Mode → List Piece
  | .text raw => textPieces raw
  | .stopped => []
  | _ => [.broken]

def piecesFrom (mode : Mode) : List Char → List Piece
  | [] => ending mode
  | c :: rest => (step mode c).1 ++ piecesFrom (step mode c).2 rest

def stepAll (mode : Mode) : List Char → List Piece × Mode
  | [] => ([], mode)
  | c :: rest =>
    let (done, mode) := step mode c
    let (more, mode) := stepAll mode rest
    (done ++ more, mode)

theorem piecesFrom_append (mode : Mode) (xs ys : List Char) :
    piecesFrom mode (xs ++ ys) = (stepAll mode xs).1 ++ piecesFrom (stepAll mode xs).2 ys := by
  induction xs generalizing mode with
  | nil => rfl
  | cons x xs ih => simp [piecesFrom, stepAll, ih]

def byteOrderMark : Char := Char.ofNat 0xFEFF

-- A byte order mark at the start is no text.
def pieces (cs : List Char) : List Piece :=
  match cs with
  | c :: rest => if c = byteOrderMark then piecesFrom (.text []) rest else piecesFrom (.text []) cs
  | [] => []

-- A name without what stands before its first colon.
def localName (name : List Char) : List Char :=
  match name.dropWhile (· != ':') with
  | _ :: rest => rest
  | [] => name

-- The local name of the first element, if the pieces before it are sound.
def rootName? : List Piece → Option (List Char)
  | .start name _ :: _ => some (localName name)
  | .text _ :: rest => rootName? rest
  | .cdata _ :: rest => rootName? rest
  | .doctype :: rest => rootName? rest
  | _ => none

end Harvester.Xml
