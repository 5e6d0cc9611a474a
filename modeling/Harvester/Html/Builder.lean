import Harvester.Html.Draft
namespace Harvester.Html

-- Which part of a document is being read; each part takes a token in its own way.
inductive Part
  | initial | beforeHtml | beforeHead | inHead | afterHead | inBody | text | inTable | inTableText | inCaption
  | inColumnGroup | inTableBody | inRow | inCell | inSelect | inSelectInTable | inTemplate | afterBody | inFrameset
  | afterFrameset | afterAfterBody | afterAfterFrameset
deriving Repr, DecidableEq, Inhabited

-- A formatting element that is to be opened again where it was cut off, or a border that is not crossed.
inductive Formatting
  | border
  | element (node : Nat) (tag : Tag)
deriving Repr, DecidableEq, Inhabited

-- A document under construction. The open elements and the formatting elements stand innermost, or latest, first.
structure Builder where
  draft : Draft
  open_ : List Nat
  formatting : List Formatting
  part : Part
  returnTo : Part
  templates : List Part
  head : Option Nat
  form : Option Nat
  framesetAllowed : Bool
  oldLayout : Bool
  fostering : Bool
  tableText : List Token
  skipNewline : Bool
  manner : Manner
deriving Repr, Inhabited

-- What becomes of a token: it is used up, or looked at once more in the part that the builder is in now.
inductive Outcome
  | done (b : Builder)
  | again (b : Builder)
deriving Repr, Inhabited

namespace Builder

def start : Builder :=
  { draft := .start, open_ := [], formatting := [], part := .initial, returnTo := .initial, templates := [],
    head := none, form := none, framesetAllowed := true, oldLayout := false, fostering := false, tableText := [],
    skipNewline := false, manner := .markup }

def kind (b : Builder) (i : Nat) : Space × String :=
  match (b.draft.vertex i).label with
  | .element space name _ => (space, name)
  | _ => (.html, "")

def isNamed (b : Builder) (name : String) (i : Nat) : Bool := b.kind i == (.html, name)

def isOneOf (b : Builder) (names : List String) (i : Nat) : Bool :=
  (b.kind i).1 == .html && names.contains (b.kind i).2

def current (b : Builder) : Nat := b.open_.headD 0

def root (b : Builder) : Nat := b.open_.getLastD 0

def currentIs (b : Builder) (name : String) : Bool := b.isNamed name b.current

def currentIn (b : Builder) (names : List String) : Bool := b.isOneOf names b.current

def isForeign (b : Builder) (i : Nat) : Bool := (b.kind i).1 != .html

def isMathText (b : Builder) (i : Nat) : Bool :=
  (b.kind i).1 == .mathml && ["mi", "mo", "mn", "ms", "mtext"].contains (b.kind i).2

def holdsHtml (b : Builder) (i : Nat) : Bool :=
  (b.kind i).1 == .svg && ["foreignobject", "desc", "title"].contains (b.kind i).2

def specialNames : List String :=
  ["address", "applet", "area", "article", "aside", "base", "basefont", "bgsound", "blockquote", "body", "br",
    "button", "caption", "center", "col", "colgroup", "dd", "details", "dir", "div", "dl", "dt", "embed", "fieldset",
    "figcaption", "figure", "footer", "form", "frame", "frameset", "h1", "h2", "h3", "h4", "h5", "h6", "head",
    "header", "hgroup", "hr", "html", "iframe", "img", "input", "isindex", "li", "link", "listing", "main", "marquee",
    "menu", "meta", "nav", "noembed", "noframes", "noscript", "object", "ol", "p", "param", "plaintext", "pre",
    "script", "section", "select", "source", "style", "summary", "table", "tbody", "td", "template", "textarea",
    "tfoot", "th", "thead", "title", "tr", "track", "ul", "wbr", "xmp"]

def headings : List String := ["h1", "h2", "h3", "h4", "h5", "h6"]

-- Elements whose end is implied by what follows them.
def impliedEnds : List String := ["dd", "dt", "li", "option", "optgroup", "p", "rb", "rp", "rt", "rtc"]

def allImpliedEnds : List String :=
  impliedEnds ++ ["caption", "colgroup", "tbody", "td", "tfoot", "th", "thead", "tr"]

def scopeNames : List String :=
  ["applet", "caption", "html", "table", "td", "th", "marquee", "object", "template"]

def isSpecial (b : Builder) (i : Nat) : Bool :=
  b.isOneOf specialNames i || b.isMathText i || b.holdsHtml i || b.kind i == (.mathml, "annotation-xml")

-- Whether an open element is found before the search meets a border.
def searchOpen (wanted border : Nat → Bool) : List Nat → Bool
  | [] => false
  | i :: rest => if wanted i then true else if border i then false else searchOpen wanted border rest

def inScopeWith (b : Builder) (more : List String) (wanted : Nat → Bool) : Bool :=
  searchOpen wanted (fun i => b.isOneOf (more ++ scopeNames) i || b.isMathText i || b.holdsHtml i) b.open_

def inScope (b : Builder) (name : String) : Bool := b.inScopeWith [] (b.isNamed name)

def inButtonScope (b : Builder) (name : String) : Bool := b.inScopeWith ["button"] (b.isNamed name)

def inListScope (b : Builder) (name : String) : Bool := b.inScopeWith ["ol", "ul"] (b.isNamed name)

def tableBorders : List String := ["html", "table", "template"]

def inTableScopeOf (b : Builder) (wanted : Nat → Bool) : Bool := searchOpen wanted (b.isOneOf tableBorders) b.open_

def inTableScope (b : Builder) (name : String) : Bool := b.inTableScopeOf (b.isNamed name)

def inSelectScope (b : Builder) (name : String) : Bool :=
  searchOpen (b.isNamed name) (fun i => !b.isOneOf ["optgroup", "option"] i) b.open_

def isOpenNamed (b : Builder) (name : String) : Bool := b.open_.any (b.isNamed name)

def pop (b : Builder) : Builder := { b with open_ := b.open_.drop 1 }

-- Open elements are closed up to and including the first wanted one.
def popUntil (b : Builder) (wanted : Nat → Bool) : Builder :=
  { b with open_ := (b.open_.dropWhile fun i => !wanted i).drop 1 }

def popUntilNamed (b : Builder) (name : String) : Builder := b.popUntil (b.isNamed name)

-- Open elements are closed until a wanted one is the innermost.
def popUntilCurrent (b : Builder) (wanted : List String) : Builder :=
  { b with open_ := b.open_.dropWhile fun i => !b.isOneOf wanted i }

def closeImplied (b : Builder) (names : List String) : Builder :=
  { b with open_ := b.open_.dropWhile fun i => b.isOneOf names i }

def closeImpliedExcept (b : Builder) (name : String) : Builder :=
  b.closeImplied (impliedEnds.filter (· != name))

def dropOpen (b : Builder) (i : Nat) : Builder := { b with open_ := b.open_.filter (· != i) }

-- Where a node goes: the last child of a node, or, out of a table, right before the table.
inductive Place
  | lastChild (parent : Nat)
  | before (sibling : Nat)
deriving Repr, DecidableEq, Inhabited

def fosterPlace (b : Builder) : List Nat → Place
  | [] => .lastChild b.root
  | i :: rest =>
    if b.isNamed "template" i then .lastChild i
    else if b.isNamed "table" i then
      if (b.draft.vertex i).parent.isSome then .before i else .lastChild (rest.headD 0)
    else fosterPlace b rest

def placeIn (b : Builder) (target : Nat) : Place :=
  if b.fostering && b.isOneOf ["table", "tbody", "tfoot", "thead", "tr"] target then b.fosterPlace b.open_
  else .lastChild target

def place (b : Builder) : Place := b.placeIn b.current

def putAt (d : Draft) (i : Nat) : Place → Draft
  | .lastChild parent => d.append parent i
  | .before sibling => d.insertBefore sibling i

def addText (b : Builder) (cs : List Char) : Builder :=
  let content := String.ofList cs
  { b with draft := match b.place with
      | .lastChild parent => b.draft.appendText parent content
      | .before sibling => b.draft.insertTextBefore sibling content }

def addComment (b : Builder) : Builder :=
  let (i, draft) := b.draft.make .comment
  { b with draft := putAt draft i b.place }

def addCommentTo (b : Builder) (parent : Nat) : Builder :=
  let (i, draft) := b.draft.make .comment
  { b with draft := draft.append parent i }

-- A new element at the place for it, which is opened.
def insertIn (b : Builder) (space : Space) (name : String) (attributes : Attributes) : Builder :=
  let (i, draft) := b.draft.make (.element space name attributes)
  { b with draft := putAt draft i b.place, open_ := i :: b.open_ }

def insert (b : Builder) (tag : Tag) : Builder := b.insertIn .html tag.name tag.attributes

def insertNamed (b : Builder) (name : String) : Builder := b.insertIn .html name []

-- An element without content.
def insertEmpty (b : Builder) (tag : Tag) : Builder := (b.insert tag).pop

def insertRoot (b : Builder) (attributes : Attributes) : Builder :=
  let (i, draft) := b.draft.make (.element .html "html" attributes)
  { b with draft := draft.append 0 i, open_ := [i] }

def addBorder (b : Builder) : Builder := { b with formatting := .border :: b.formatting }

def forgetToBorder (b : Builder) : Builder :=
  { b with formatting := (b.formatting.dropWhile (· != .border)).drop 1 }

def Formatting.isElement (node : Nat) : Formatting → Bool
  | .element n _ => n == node
  | .border => false

def forget (b : Builder) (i : Nat) : Builder :=
  { b with formatting := b.formatting.filter fun f => !Formatting.isElement i f }

def sameAttributes (a b : Attributes) : Bool := a.length == b.length && a.all fun x => b.contains x

-- The formatting elements since the last border.
def sinceBorder (fs : List Formatting) : List (Nat × Tag) :=
  fs.takeWhile (· != .border) |>.filterMap fun
    | .element n t => some (n, t)
    | .border => none

-- At most three formatting elements that are alike are kept; the earliest gives way.
def insertFormatting (b : Builder) (tag : Tag) : Builder :=
  let alike := (sinceBorder b.formatting).filter fun e =>
    e.2.name == tag.name && sameAttributes e.2.attributes tag.attributes
  let b := if alike.length ≥ 3 then
      match alike.getLast? with
      | some (n, _) => b.forget n
      | none => b
    else b
  let b := b.insert tag
  { b with formatting := .element b.current tag :: b.formatting }

-- Formatting elements that were cut off, the latest ones first, up to a border or an open element.
def cutOff (b : Builder) : List Formatting → List (Nat × Tag)
  | .element n t :: rest => if b.open_.contains n then [] else (n, t) :: b.cutOff rest
  | _ => []

def replaceFormatting (b : Builder) (old new : Nat) : Builder :=
  { b with formatting := b.formatting.map fun f => match f with
      | .element n t => if n = old then .element new t else f
      | .border => f }

-- Open again, from the outermost, the formatting elements that were cut off.
def reopenFormatting (b : Builder) : Builder :=
  (b.cutOff b.formatting).reverse.foldl (fun b e =>
    let b := b.insert e.2
    b.replaceFormatting e.1 b.current) b

def closeParagraph (b : Builder) : Builder := (b.closeImpliedExcept "p").popUntilNamed "p"

def closeParagraphInScope (b : Builder) : Builder := if b.inButtonScope "p" then b.closeParagraph else b

-- An end tag without a rule of its own closes the nearest open element of its name, but no special element on the way.
def closeAny (b : Builder) (name : String) : Builder :=
  let rec search : List Nat → Bool
    | [] => false
    | i :: rest => if b.isNamed name i then true else if b.isSpecial i then false else search rest
  if search b.open_ then (b.closeImpliedExcept name).popUntilNamed name else b

def replaceOpen (b : Builder) (old new : Nat) : Builder :=
  { b with open_ := b.open_.map fun i => if i = old then new else i }

-- Put an entry into the list right after (that is, later than) another one.
def insertAfter (entry : Formatting) (node : Nat) (fs : List Formatting) : List Formatting :=
  fs.flatMap fun f => if Formatting.isElement node f then [entry, f] else [f]

-- Where the renewed formatting element will stand in the list: in place of the old one or right after another.
inductive Bookmark
  | inPlace
  | after (node : Nat)
deriving Repr, DecidableEq, Inhabited

-- The elements between the formatting element and the furthest block, from the block outwards: formatting elements
-- among them are renewed, at most three, and take over what is below them; the others are closed.
def renewBetween (b : Builder) (block last : Nat) (mark : Bookmark) (count : Nat) :
    List Nat → Builder × Nat × Bookmark
  | [] => (b, last, mark)
  | i :: rest =>
    match (sinceAll b.formatting).find? (·.1 == i) with
    | none => renewBetween (b.dropOpen i) block last mark (count + 1) rest
    | some (_, tag) =>
      if count ≥ 3 then renewBetween ((b.forget i).dropOpen i) block last mark (count + 1) rest
      else
        let (n, draft) := b.draft.make (.element .html tag.name tag.attributes)
        let b := ({ b with draft }.replaceOpen i n).replaceFormatting i n
        let mark := if last = block then .after n else mark
        let b := { b with draft := (b.draft.detach last).append n last }
        renewBetween b block n mark (count + 1) rest
where
  sinceAll (fs : List Formatting) : List (Nat × Tag) :=
    fs.filterMap fun
      | .element n t => some (n, t)
      | .border => none

-- One round for a misnested end tag; `none` when nothing more is to be done.
def adoptOnce (b : Builder) (name : String) : Builder × Bool :=
  match (sinceBorder b.formatting).find? fun e => e.2.name == name with
  | none => (b.closeAny name, false)
  | some (node, tag) =>
    if !b.open_.contains node then (b.forget node, false)
    else if !b.inScopeWith [] (· == node) then (b, false)
    else
      let inner := b.open_.takeWhile (· != node)
      match (inner.reverse.find? b.isSpecial) with
      | none => ({ b with open_ := (b.open_.dropWhile (· != node)).drop 1 }.forget node, false)
      | some block =>
        let ancestor := ((b.open_.dropWhile (· != node)).drop 1).headD 0
        let between := (inner.dropWhile (· != block)).drop 1
        let (b, last, mark) := renewBetween b block block .inPlace 0 between
        let draft := b.draft.detach last
        let b := { b with draft := putAt draft last ({ b with draft }.placeIn ancestor) }
        let (n, draft) := b.draft.make (.element .html tag.name tag.attributes)
        let draft := (draft.moveChildren block n).append block n
        let entry := Formatting.element n tag
        let formatting := match mark with
          | .inPlace => b.formatting.map fun f => if Formatting.isElement node f then entry else f
          | .after m => (insertAfter entry m b.formatting).filter fun f => !Formatting.isElement node f
        let open_ := (b.open_.filter (· != node)).flatMap fun i => if i = block then [n, i] else [i]
        ({ b with draft, formatting, open_ }, true)

def adoptRounds (b : Builder) (name : String) : Nat → Builder
  | 0 => b
  | rounds + 1 =>
    match b.adoptOnce name with
    | (b, true) => b.adoptRounds name rounds
    | (b, false) => b

-- The end tag of a formatting element, which may be misnested: what the element covers stays covered, by renewed
-- copies of it.
def closeFormatting (b : Builder) (name : String) : Builder :=
  if b.currentIs name && !(b.formatting.any (Formatting.isElement b.current)) then b.pop
  else b.adoptRounds name 8

-- A link within a link ends the outer one.
def endOpenLink (b : Builder) : Builder :=
  match (sinceBorder b.formatting).find? fun e => b.isNamed "a" e.1 with
  | none => b
  | some (node, _) => ((b.closeFormatting "a").forget node).dropOpen node

-- The part that the innermost telling element belongs to.
def partFor (b : Builder) : List Nat → Part
  | [] => .inBody
  | i :: rest =>
    let last := rest.isEmpty
    match b.kind i with
    | (.html, "select") =>
      let outer := rest.find? (b.isOneOf ["template", "table"])
      if outer.any (b.isNamed "table") then .inSelectInTable else .inSelect
    | (.html, "td") | (.html, "th") => if last then .inBody else .inCell
    | (.html, "tr") => .inRow
    | (.html, "tbody") | (.html, "thead") | (.html, "tfoot") => .inTableBody
    | (.html, "caption") => .inCaption
    | (.html, "colgroup") => .inColumnGroup
    | (.html, "table") => .inTable
    | (.html, "template") => b.templates.headD .inBody
    | (.html, "head") => if last then .inBody else .inHead
    | (.html, "body") => .inBody
    | (.html, "frameset") => .inFrameset
    | (.html, "html") => if b.head.isSome then .afterHead else .beforeHead
    | _ => b.partFor rest

def fitPart (b : Builder) : Builder := { b with part := b.partFor b.open_ }

def goTo (b : Builder) (part : Part) : Builder := { b with part }

-- An element whose content is text; the part is returned to behind it.
def insertTextElement (b : Builder) (tag : Tag) (manner : Manner) : Builder :=
  { b.insert tag with returnTo := b.part, part := .text, manner }

def noFrameset (b : Builder) : Builder := { b with framesetAllowed := false }

end Builder

end Harvester.Html
