import Harvester.Html.Builder
import Harvester.Html.Doctype
namespace Harvester.Html.Builder

open Text

-- A second root tag only adds what attributes are missing.
def htmlAgain (b : Builder) (tag : Tag) : Outcome :=
  if b.isOpenNamed "template" then .done b
  else .done { b with draft := b.draft.addAttributes b.root tag.attributes }

def headNames : List String :=
  ["base", "basefont", "bgsound", "link", "meta", "noframes", "script", "style", "template", "title"]

def headElement (b : Builder) (tag : Tag) : Builder :=
  if tag.name = "title" then b.insertTextElement tag (.resolvedText "title")
  else if ["noframes", "style", "noscript"].contains tag.name then b.insertTextElement tag (.rawText tag.name)
  else if tag.name = "script" then b.insertTextElement tag .script
  else if tag.name = "template" then
    { (b.insert tag).addBorder.noFrameset with part := .inTemplate, templates := .inTemplate :: b.templates }
  else b.insertEmpty tag

def endTemplate (b : Builder) : Builder :=
  if b.isOpenNamed "template" then
    let b := ((b.closeImplied allImpliedEnds).popUntilNamed "template").forgetToBorder
    { b with templates := b.templates.drop 1 }.fitPart
  else b

def isHeadTag (token : Token) : Bool :=
  match token with
  | .start tag => headNames.contains tag.name
  | .close tag => tag.name == "template"
  | _ => false

def headTag (b : Builder) (token : Token) : Outcome :=
  match token with
  | .start tag => .done (b.headElement tag)
  | .close _ => .done b.endTemplate
  | _ => .done b

-- At the end of the document, open templates are closed one by one.
def endingInTemplate (b : Builder) : Outcome :=
  if b.isOpenNamed "template" then
    let b := (b.popUntilNamed "template").forgetToBorder
    .again { b with templates := b.templates.drop 1 }.fitPart
  else .done b

def bodyNode? (b : Builder) : Option Nat := (b.open_.reverse.drop 1).head?.filter (b.isNamed "body")

def plainBlocks : List String :=
  ["address", "article", "aside", "blockquote", "center", "details", "dialog", "dir", "div", "dl", "fieldset",
    "figcaption", "figure", "footer", "header", "hgroup", "main", "menu", "nav", "ol", "p", "section", "summary", "ul"]

def closedBlocks : List String :=
  ["address", "article", "aside", "blockquote", "button", "center", "details", "dialog", "dir", "div", "dl", "fieldset",
    "figcaption", "figure", "footer", "header", "hgroup", "listing", "main", "menu", "nav", "ol", "pre", "section",
    "summary", "ul"]

def formattingNames : List String :=
  ["a", "b", "big", "code", "em", "font", "i", "nobr", "s", "small", "strike", "strong", "tt", "u"]

def listItemNames (name : String) : List String := if name = "li" then ["li"] else ["dd", "dt"]

-- The list item that a new item of the same list ends, if no other special element stands between.
def itemToClose? (b : Builder) (names : List String) : List Nat → Option String
  | [] => none
  | i :: rest =>
    if b.isOneOf names i then some (b.kind i).2
    else if b.isSpecial i && !b.isOneOf ["address", "div", "p"] i then none
    else itemToClose? b names rest

def isHidden (tag : Tag) : Bool :=
  tag.attributes.any fun a => a.1 == "type" && a.2.toList.map lowerAscii == "hidden".toList

def insertForeign (b : Builder) (space : Space) (tag : Tag) : Builder :=
  let b := b.insertIn space tag.name tag.attributes
  if tag.selfClosing then b.pop else b

def isVoid (name : String) : Bool := ["area", "br", "embed", "img", "keygen", "wbr", "input"].contains name

def voidElement (b : Builder) (tag : Tag) : Builder :=
  let allowed := b.framesetAllowed && tag.name == "input" && isHidden tag
  { b.reopenFormatting.insertEmpty tag with framesetAllowed := allowed }

def startInBody (b : Builder) (tag : Tag) : Outcome :=
  let name := tag.name
  if name = "html" then b.htmlAgain tag
  else if headNames.contains name then .done (b.headElement tag)
  else if name = "body" then
    match b.bodyNode? with
    | some i =>
      if b.isOpenNamed "template" then .done b
      else .done { b.noFrameset with draft := b.draft.addAttributes i tag.attributes }
    | none => .done b
  else if name = "frameset" then
    match b.bodyNode? with
    | some i =>
      if b.framesetAllowed then
        let b := { b with draft := b.draft.detach i, open_ := [b.root] }
        .done ((b.insert tag).goTo .inFrameset)
      else .done b
    | none => .done b
  else if plainBlocks.contains name then .done (b.closeParagraphInScope.insert tag)
  else if headings.contains name then
    let b := b.closeParagraphInScope
    .done ((if b.currentIn headings then b.pop else b).insert tag)
  else if name = "pre" ∨ name = "listing" then
    .done { (b.closeParagraphInScope.insert tag).noFrameset with skipNewline := true }
  else if name = "form" then
    let inTemplate := b.isOpenNamed "template"
    if b.form.isSome && !inTemplate then .done b
    else
      let b := b.closeParagraphInScope.insert tag
      .done (if inTemplate then b else { b with form := some b.current })
  else if ["li", "dd", "dt"].contains name then
    let b := b.noFrameset
    let b := match b.itemToClose? (listItemNames name) b.open_ with
      | some item => (b.closeImpliedExcept item).popUntilNamed item
      | none => b
    .done (b.closeParagraphInScope.insert tag)
  else if name = "plaintext" then .done { b.closeParagraphInScope.insert tag with manner := .plain }
  else if name = "button" then
    let b := if b.inScope "button" then (b.closeImplied impliedEnds).popUntilNamed "button" else b
    .done (b.reopenFormatting.insert tag).noFrameset
  else if name = "a" then .done (b.endOpenLink.reopenFormatting.insertFormatting tag)
  else if name = "nobr" then
    let b := b.reopenFormatting
    let b := if b.inScope "nobr" then (b.closeFormatting "nobr").reopenFormatting else b
    .done (b.insertFormatting tag)
  else if formattingNames.contains name then .done (b.reopenFormatting.insertFormatting tag)
  else if ["applet", "marquee", "object"].contains name then
    .done (b.reopenFormatting.insert tag).addBorder.noFrameset
  else if name = "table" then
    let b := if b.oldLayout then b else b.closeParagraphInScope
    .done ((b.insert tag).noFrameset.goTo .inTable)
  else if isVoid name then .done (b.voidElement tag)
  else if name = "image" then .done (b.voidElement { tag with name := "img" })
  else if ["param", "source", "track"].contains name then .done (b.insertEmpty tag)
  else if name = "hr" then .done (b.closeParagraphInScope.insertEmpty tag).noFrameset
  else if name = "textarea" then
    .done { b.noFrameset.insertTextElement tag (.resolvedText name) with skipNewline := true }
  else if name = "xmp" then
    .done (b.closeParagraphInScope.reopenFormatting.noFrameset.insertTextElement tag (.rawText name))
  else if name = "iframe" then .done (b.noFrameset.insertTextElement tag (.rawText name))
  else if name = "noembed" ∨ name = "noscript" then .done (b.insertTextElement tag (.rawText name))
  else if name = "select" then
    let tabular := [Part.inTable, .inCaption, .inTableBody, .inRow, .inCell].contains b.part
    .done ((b.reopenFormatting.insert tag).noFrameset.goTo (if tabular then .inSelectInTable else .inSelect))
  else if name = "optgroup" ∨ name = "option" then
    .done ((if b.currentIs "option" then b.pop else b).reopenFormatting.insert tag)
  else if name = "rb" ∨ name = "rtc" then
    .done ((if b.inScope "ruby" then b.closeImplied impliedEnds else b).insert tag)
  else if name = "rp" ∨ name = "rt" then
    .done ((if b.inScope "ruby" then b.closeImpliedExcept "rtc" else b).insert tag)
  else if name = "math" then .done (b.reopenFormatting.insertForeign .mathml tag)
  else if name = "svg" then .done (b.reopenFormatting.insertForeign .svg tag)
  else if ["caption", "col", "colgroup", "frame", "head", "tbody", "td", "tfoot", "th", "thead", "tr"].contains name then
    .done b
  else .done (b.reopenFormatting.insert tag)

def closeInBody (b : Builder) (tag : Tag) : Outcome :=
  let name := tag.name
  if name = "template" then .done b.endTemplate
  else if name = "body" then .done (if b.inScope "body" then b.goTo .afterBody else b)
  else if name = "html" then if b.inScope "body" then .again (b.goTo .afterBody) else .done b
  else if closedBlocks.contains name then
    .done (if b.inScope name then (b.closeImplied impliedEnds).popUntilNamed name else b)
  else if name = "form" then
    if b.isOpenNamed "template" then
      .done (if b.inScope "form" then (b.closeImplied impliedEnds).popUntilNamed "form" else b)
    else
      match b.form with
      | none => .done b
      | some i =>
        let b := { b with form := none }
        .done (if b.inScopeWith [] (· == i) then (b.closeImplied impliedEnds).dropOpen i else b)
  else if name = "p" then
    .done (if b.inButtonScope "p" then b else b.insertNamed "p").closeParagraph
  else if name = "li" then
    .done (if b.inListScope name then (b.closeImpliedExcept name).popUntilNamed name else b)
  else if name = "dd" ∨ name = "dt" then
    .done (if b.inScope name then (b.closeImpliedExcept name).popUntilNamed name else b)
  else if headings.contains name then
    .done (if b.inScopeWith [] (b.isOneOf headings) then (b.closeImplied impliedEnds).popUntil (b.isOneOf headings)
      else b)
  else if formattingNames.contains name then .done (b.closeFormatting name)
  else if ["applet", "marquee", "object"].contains name then
    .done (if b.inScope name then ((b.closeImplied impliedEnds).popUntilNamed name).forgetToBorder else b)
  else if name = "br" then .done (b.voidElement ⟨"br", [], false⟩)
  else .done (b.closeAny name)

def inBody (b : Builder) (token : Token) : Outcome :=
  match token with
  | .zero => .done b
  | .blanks cs => .done (b.reopenFormatting.addText cs)
  | .words cs => .done (b.reopenFormatting.noFrameset.addText cs)
  | .comment => .done b.addComment
  | .doctype _ => .done b
  | .start tag => b.startInBody tag
  | .close tag => b.closeInBody tag
  | .ending => if b.templates.isEmpty then .done b else b.endingInTemplate

def initial (b : Builder) (token : Token) : Outcome :=
  match token with
  | .blanks _ => .done b
  | .comment => .done (b.addCommentTo 0)
  | .doctype declared => .done { b with oldLayout := declared.hasOldLayout, part := .beforeHtml }
  | _ => .again { b with oldLayout := true, part := .beforeHtml }

def strayEnd (token : Token) : Bool :=
  match token with
  | .close tag => !(["head", "body", "html", "br"].contains tag.name)
  | _ => false

def isStart (name : String) (token : Token) : Bool :=
  match token with
  | .start tag => tag.name == name
  | _ => false

def beforeHtml (b : Builder) (token : Token) : Outcome :=
  match token with
  | .blanks _ => .done b
  | .comment => .done (b.addCommentTo 0)
  | token =>
    match token with
    | .start ⟨"html", attributes, _⟩ => .done ((b.insertRoot attributes).goTo .beforeHead)
    | token => if strayEnd token then .done b else .again ((b.insertRoot []).goTo .beforeHead)

def openHead (b : Builder) (attributes : Attributes) : Builder :=
  let b := b.insertIn .html "head" attributes
  { b with head := some b.current, part := .inHead }

def beforeHead (b : Builder) (token : Token) : Outcome :=
  match token with
  | .blanks _ => .done b
  | .comment => .done b.addComment
  | .start ⟨"html", attributes, closing⟩ => b.htmlAgain ⟨"html", attributes, closing⟩
  | .start ⟨"head", attributes, _⟩ => .done (b.openHead attributes)
  | token => if strayEnd token then .done b else .again (b.openHead [])

def inHead (b : Builder) (token : Token) : Outcome :=
  match token with
  | .blanks cs => .done (b.addText cs)
  | .comment => .done b.addComment
  | .start ⟨"html", attributes, closing⟩ => b.htmlAgain ⟨"html", attributes, closing⟩
  | .start ⟨"head", _, _⟩ => .done b
  | .close ⟨"head", _, _⟩ => .done (b.pop.goTo .afterHead)
  | token =>
    if isHeadTag token || isStart "noscript" token then b.headTag token
    else if strayEnd token then .done b
    else .again (b.pop.goTo .afterHead)

def afterHead (b : Builder) (token : Token) : Outcome :=
  match token with
  | .blanks cs => .done (b.addText cs)
  | .comment => .done b.addComment
  | .start ⟨"html", attributes, closing⟩ => b.htmlAgain ⟨"html", attributes, closing⟩
  | .start ⟨"body", attributes, _⟩ => .done ((b.insertIn .html "body" attributes).noFrameset.goTo .inBody)
  | .start ⟨"frameset", attributes, _⟩ => .done ((b.insertIn .html "frameset" attributes).goTo .inFrameset)
  | .start ⟨"head", _, _⟩ => .done b
  | .close ⟨"template", _, _⟩ => .done b.endTemplate
  | .close ⟨"head", _, _⟩ => .done b
  | token =>
    match isHeadTag token, b.head with
    | true, some head =>
      match { b with open_ := head :: b.open_ }.headTag token with
      | .done b => .done (b.dropOpen head)
      | outcome => outcome
    | _, _ => if strayEnd token then .done b else .again ((b.insertNamed "body").goTo .inBody)

def text (b : Builder) (token : Token) : Outcome :=
  match token with
  | .blanks cs => .done (b.addText cs)
  | .words cs => .done (b.addText cs)
  | .close _ => .done { b.pop with part := b.returnTo, manner := .markup }
  | .ending => .again (b.pop.goTo b.returnTo)
  | _ => .done b

-- What may not stand in a table goes before it.
def fosterInBody (b : Builder) (token : Token) : Outcome :=
  match inBody { b with fostering := true } token with
  | .done b => .done { b with fostering := false }
  | .again b => .again { b with fostering := false }

def ignoredInTable : List String :=
  ["body", "caption", "col", "colgroup", "html", "tbody", "td", "tfoot", "th", "thead", "tr"]

def charactersInTable (b : Builder) (token : Token) : Outcome :=
  if b.currentIn ["table", "tbody", "tfoot", "thead", "tr"] then
    .again { b with returnTo := b.part, part := .inTableText }
  else b.fosterInBody token

def inTable (b : Builder) (token : Token) : Outcome :=
  match token with
  | .zero => b.charactersInTable token
  | .blanks _ => b.charactersInTable token
  | .words _ => b.charactersInTable token
  | .comment => .done b.addComment
  | .doctype _ => .done b
  | .ending => b.inBody token
  | .start tag =>
    let name := tag.name
    if name = "caption" then
      .done (((b.popUntilCurrent tableBorders).addBorder.insert tag).goTo .inCaption)
    else if name = "colgroup" then .done (((b.popUntilCurrent tableBorders).insert tag).goTo .inColumnGroup)
    else if name = "col" then .again (((b.popUntilCurrent tableBorders).insertNamed "colgroup").goTo .inColumnGroup)
    else if ["tbody", "tfoot", "thead"].contains name then
      .done (((b.popUntilCurrent tableBorders).insert tag).goTo .inTableBody)
    else if ["td", "th", "tr"].contains name then
      .again (((b.popUntilCurrent tableBorders).insertNamed "tbody").goTo .inTableBody)
    else if name = "table" then
      if b.inTableScope "table" then .again (b.popUntilNamed "table").fitPart else .done b
    else if ["style", "script", "template"].contains name then .done (b.headElement tag)
    else if name = "input" ∧ isHidden tag then .done (b.insertEmpty tag)
    else if name = "form" then
      if b.isOpenNamed "template" || b.form.isSome then .done b
      else
        let b := b.insert tag
        .done { b with form := some b.current }.pop
    else b.fosterInBody token
  | .close tag =>
    let name := tag.name
    if name = "table" then .done (if b.inTableScope "table" then (b.popUntilNamed "table").fitPart else b)
    else if name = "template" then .done b.endTemplate
    else if ignoredInTable.contains name then .done b
    else b.fosterInBody token

def fosterText (b : Builder) (token : Token) : Builder :=
  match b.fosterInBody token with
  | .done b => b
  | .again b => b

def addTextToken (b : Builder) (token : Token) : Builder :=
  match token with
  | .blanks cs => b.addText cs
  | .words cs => b.addText cs
  | _ => b

def isWords (token : Token) : Bool :=
  match token with
  | .words _ => true
  | _ => false

-- Text in a table is held back until something else comes: only blanks may stay.
def inTableText (b : Builder) (token : Token) : Outcome :=
  match token with
  | .zero => .done b
  | .blanks _ => .done { b with tableText := b.tableText ++ [token] }
  | .words _ => .done { b with tableText := b.tableText ++ [token] }
  | _ =>
    let held := b.tableText
    let b := { b with tableText := [] }
    let b := if held.any isWords then held.foldl fosterText b else held.foldl addTextToken b
    .again (b.goTo b.returnTo)

def inCaption (b : Builder) (token : Token) : Outcome :=
  let close := fun (b : Builder) => ((b.closeImplied impliedEnds).popUntilNamed "caption").forgetToBorder.goTo .inTable
  match token with
  | .start tag =>
    if ["caption", "col", "colgroup", "tbody", "td", "tfoot", "th", "thead", "tr"].contains tag.name then
      if b.inTableScope "caption" then .again (close b) else .done b
    else b.inBody token
  | .close tag =>
    if tag.name = "caption" then .done (if b.inTableScope "caption" then close b else b)
    else if tag.name = "table" then if b.inTableScope "caption" then .again (close b) else .done b
    else if ignoredInTable.contains tag.name then .done b
    else b.inBody token
  | _ => b.inBody token

def inColumnGroup (b : Builder) (token : Token) : Outcome :=
  let otherwise := fun (b : Builder) => if b.currentIs "colgroup" then Outcome.again (b.pop.goTo .inTable) else .done b
  match token with
  | .blanks cs => .done (b.addText cs)
  | .comment => .done b.addComment
  | .ending => b.inBody token
  | .start tag =>
    if tag.name = "html" then b.htmlAgain tag
    else if tag.name = "col" then .done (b.insertEmpty tag)
    else if tag.name = "template" then .done (b.headElement tag)
    else otherwise b
  | .close tag =>
    if tag.name = "colgroup" then .done (if b.currentIs "colgroup" then b.pop.goTo .inTable else b)
    else if tag.name = "col" then .done b
    else if tag.name = "template" then .done b.endTemplate
    else otherwise b
  | _ => otherwise b

def bodyBorders : List String := ["tbody", "tfoot", "thead", "template", "html"]

def inTableBody (b : Builder) (token : Token) : Outcome :=
  let leave := fun (b : Builder) => (b.popUntilCurrent bodyBorders).pop.goTo .inTable
  let outside := fun (b : Builder) =>
    if b.inTableScopeOf (b.isOneOf ["table", "tbody", "tfoot"]) then Outcome.again (leave b) else .done b
  match token with
  | .start tag =>
    if tag.name = "tr" then .done (((b.popUntilCurrent bodyBorders).insert tag).goTo .inRow)
    else if tag.name = "th" ∨ tag.name = "td" then
      .again (((b.popUntilCurrent bodyBorders).insertNamed "tr").goTo .inRow)
    else if ["caption", "col", "colgroup", "tbody", "tfoot", "thead"].contains tag.name then outside b
    else b.inTable token
  | .close tag =>
    if ["tbody", "tfoot", "thead"].contains tag.name then
      .done (if b.inTableScope tag.name then leave b else b)
    else if tag.name = "table" then outside b
    else if ignoredInTable.contains tag.name then .done b
    else b.inTable token
  | _ => b.inTable token

def rowBorders : List String := ["tr", "template", "html"]

def inRow (b : Builder) (token : Token) : Outcome :=
  let leave := fun (b : Builder) => (b.popUntilCurrent rowBorders).pop.goTo .inTableBody
  let outside := fun (b : Builder) => if b.inTableScope "tr" then Outcome.again (leave b) else .done b
  match token with
  | .start tag =>
    if tag.name = "th" ∨ tag.name = "td" then
      .done (((b.popUntilCurrent rowBorders).insert tag).addBorder.goTo .inCell)
    else if ["caption", "col", "colgroup", "tbody", "tfoot", "thead", "tr"].contains tag.name then outside b
    else b.inTable token
  | .close tag =>
    if tag.name = "tr" then .done (if b.inTableScope "tr" then leave b else b)
    else if tag.name = "table" then outside b
    else if ["tbody", "tfoot", "thead"].contains tag.name then
      if b.inTableScope tag.name then outside b else .done b
    else if ignoredInTable.contains tag.name then .done b
    else b.inTable token
  | _ => b.inTable token

def closeCell (b : Builder) : Builder :=
  ((b.closeImplied impliedEnds).popUntil (b.isOneOf ["td", "th"])).forgetToBorder.goTo .inRow

def inCell (b : Builder) (token : Token) : Outcome :=
  match token with
  | .start tag =>
    if ["caption", "col", "colgroup", "tbody", "td", "tfoot", "th", "thead", "tr"].contains tag.name then
      if b.inTableScopeOf (b.isOneOf ["td", "th"]) then .again b.closeCell else .done b
    else b.inBody token
  | .close tag =>
    if tag.name = "td" ∨ tag.name = "th" then
      .done (if b.inTableScope tag.name then
        ((b.closeImplied impliedEnds).popUntilNamed tag.name).forgetToBorder.goTo .inRow else b)
    else if ["body", "caption", "col", "colgroup", "html"].contains tag.name then .done b
    else if ["table", "tbody", "tfoot", "thead", "tr"].contains tag.name then
      if b.inTableScope tag.name then .again b.closeCell else .done b
    else b.inBody token
  | _ => b.inBody token

def endSelect (b : Builder) : Builder := (b.popUntilNamed "select").fitPart

def inSelect (b : Builder) (token : Token) : Outcome :=
  match token with
  | .blanks cs => .done (b.addText cs)
  | .words cs => .done (b.addText cs)
  | .comment => .done b.addComment
  | .ending => b.inBody token
  | .start tag =>
    let name := tag.name
    let b' := if b.currentIs "option" then b.pop else b
    if name = "html" then b.htmlAgain tag
    else if name = "option" then .done (b'.insert tag)
    else if name = "optgroup" then .done ((if b'.currentIs "optgroup" then b'.pop else b').insert tag)
    else if name = "select" then .done (if b.inSelectScope "select" then b.endSelect else b)
    else if ["input", "keygen", "textarea"].contains name then
      if b.inSelectScope "select" then .again b.endSelect else .done b
    else if name = "script" ∨ name = "template" then .done (b.headElement tag)
    else .done b
  | .close tag =>
    let name := tag.name
    if name = "optgroup" then
      let b := if b.currentIs "option" && (b.open_.drop 1).head?.any (b.isNamed "optgroup") then b.pop else b
      .done (if b.currentIs "optgroup" then b.pop else b)
    else if name = "option" then .done (if b.currentIs "option" then b.pop else b)
    else if name = "select" then .done (if b.inSelectScope "select" then b.endSelect else b)
    else if name = "template" then .done b.endTemplate
    else .done b
  | _ => .done b

def tabularNames : List String := ["caption", "table", "tbody", "tfoot", "thead", "tr", "td", "th"]

def inSelectInTable (b : Builder) (token : Token) : Outcome :=
  match token with
  | .start tag => if tabularNames.contains tag.name then .again b.endSelect else b.inSelect token
  | .close tag =>
    if tabularNames.contains tag.name then if b.inTableScope tag.name then .again b.endSelect else .done b
    else b.inSelect token
  | _ => b.inSelect token

def inTemplate (b : Builder) (token : Token) : Outcome :=
  let become := fun (part : Part) =>
    Outcome.again { b with templates := part :: b.templates.drop 1, part }
  match token with
  | .blanks _ => b.inBody token
  | .words _ => b.inBody token
  | .comment => b.inBody token
  | .ending => b.endingInTemplate
  | .start tag =>
    if headNames.contains tag.name then .done (b.headElement tag)
    else if ["caption", "colgroup", "tbody", "tfoot", "thead"].contains tag.name then become .inTable
    else if tag.name = "col" then become .inColumnGroup
    else if tag.name = "tr" then become .inTableBody
    else if tag.name = "td" ∨ tag.name = "th" then become .inRow
    else become .inBody
  | .close tag => if tag.name = "template" then .done b.endTemplate else .done b
  | _ => .done b

def afterBody (b : Builder) (token : Token) : Outcome :=
  match token with
  | .blanks _ => b.inBody token
  | .comment => .done (b.addCommentTo b.root)
  | .start ⟨"html", attributes, closing⟩ => b.htmlAgain ⟨"html", attributes, closing⟩
  | .close ⟨"html", _, _⟩ => .done (b.goTo .afterAfterBody)
  | .ending => .done b
  | _ => .again (b.goTo .inBody)

def inFrameset (b : Builder) (token : Token) : Outcome :=
  match token with
  | .blanks cs => .done (b.addText cs)
  | .comment => .done b.addComment
  | .start tag =>
    if tag.name = "html" then b.htmlAgain tag
    else if tag.name = "frameset" then .done (b.insert tag)
    else if tag.name = "frame" then .done (b.insertEmpty tag)
    else if tag.name = "noframes" then .done (b.headElement tag)
    else .done b
  | .close tag =>
    if tag.name = "frameset" ∧ b.open_.length ≠ 1 then
      let b := b.pop
      .done (if b.currentIs "frameset" then b else b.goTo .afterFrameset)
    else .done b
  | _ => .done b

def afterFrameset (b : Builder) (token : Token) : Outcome :=
  match token with
  | .blanks cs => .done (b.addText cs)
  | .comment => .done b.addComment
  | .start tag =>
    if tag.name = "html" then b.htmlAgain tag
    else if tag.name = "noframes" then .done (b.headElement tag)
    else .done b
  | .close tag => .done (if tag.name = "html" then b.goTo .afterAfterFrameset else b)
  | _ => .done b

def afterAfterBody (b : Builder) (token : Token) : Outcome :=
  match token with
  | .blanks _ => b.inBody token
  | .comment => .done (b.addCommentTo 0)
  | .start ⟨"html", attributes, closing⟩ => b.htmlAgain ⟨"html", attributes, closing⟩
  | .ending => .done b
  | _ => .again (b.goTo .inBody)

def afterAfterFrameset (b : Builder) (token : Token) : Outcome :=
  match token with
  | .blanks _ => b.inBody token
  | .comment => .done (b.addCommentTo 0)
  | .start tag =>
    if tag.name = "html" then b.htmlAgain tag
    else if tag.name = "noframes" then .done (b.headElement tag)
    else .done b
  | _ => .done b

def byPart (b : Builder) (token : Token) : Outcome :=
  match token, b.part with
  | token, .initial => b.initial token
  | .doctype _, _ => .done b
  | token, .beforeHtml => b.beforeHtml token
  | token, .beforeHead => b.beforeHead token
  | token, .inHead => b.inHead token
  | token, .afterHead => b.afterHead token
  | token, .inBody => b.inBody token
  | token, .text => b.text token
  | token, .inTable => b.inTable token
  | token, .inTableText => b.inTableText token
  | token, .inCaption => b.inCaption token
  | token, .inColumnGroup => b.inColumnGroup token
  | token, .inTableBody => b.inTableBody token
  | token, .inRow => b.inRow token
  | token, .inCell => b.inCell token
  | token, .inSelect => b.inSelect token
  | token, .inSelectInTable => b.inSelectInTable token
  | token, .inTemplate => b.inTemplate token
  | token, .afterBody => b.afterBody token
  | token, .inFrameset => b.inFrameset token
  | token, .afterFrameset => b.afterFrameset token
  | token, .afterAfterBody => b.afterAfterBody token
  | token, .afterAfterFrameset => b.afterAfterFrameset token

-- Whether a token is read by the rules for elements that are not of HTML.
def readsForeign (b : Builder) (token : Token) : Bool :=
  let i := b.current
  if b.open_.isEmpty || !b.isForeign i then false
  else match token with
    | .ending => false
    | .start tag =>
      !((b.isMathText i && tag.name != "mglyph" && tag.name != "malignmark") || b.holdsHtml i ||
        (b.kind i == (.mathml, "annotation-xml") && tag.name == "svg"))
    | .blanks _ => !(b.isMathText i || b.holdsHtml i)
    | .words _ => !(b.isMathText i || b.holdsHtml i)
    | .zero => !(b.isMathText i || b.holdsHtml i)
    | _ => true

def htmlOnlyNames : List String :=
  ["b", "big", "blockquote", "body", "br", "center", "code", "dd", "div", "dl", "dt", "em", "embed", "h1", "h2", "h3",
    "h4", "h5", "h6", "head", "hr", "i", "img", "li", "listing", "menu", "meta", "nobr", "ol", "p", "pre", "ruby", "s",
    "small", "span", "strong", "strike", "sub", "sup", "table", "tt", "u", "ul", "var"]

def isHtmlOnly (tag : Tag) : Bool :=
  htmlOnlyNames.contains tag.name ||
    (tag.name == "font" && tag.attributes.any fun a => ["color", "face", "size"].contains a.1)

def leaveForeign (b : Builder) : Builder :=
  { b with open_ := b.open_.dropWhile fun i => b.isForeign i && !b.isMathText i && !b.holdsHtml i }

-- An end tag closes the innermost open element of its name, unless an element of HTML comes first, whose rules then
-- count. The root is never closed.
def closeForeign (b : Builder) (token : Token) (name : String) (first : Bool) : List Nat → Outcome
  | [] => .done b
  | [_] => .done b
  | i :: rest =>
    if !first && !b.isForeign i then b.byPart token
    else if (b.kind i).2 = name then .done { b with open_ := rest }
    else closeForeign b token name false rest

def foreign (b : Builder) (token : Token) : Outcome :=
  match token with
  | .zero => .done (b.addText [replacementChar])
  | .blanks cs => .done (b.addText cs)
  | .words cs => .done (b.noFrameset.addText cs)
  | .comment => .done b.addComment
  | .start tag =>
    if isHtmlOnly tag then b.leaveForeign.byPart token
    else .done (b.insertForeign (b.kind b.current).1 tag)
  | .close tag =>
    if tag.name = "br" ∨ tag.name = "p" then b.leaveForeign.byPart token
    else b.closeForeign token tag.name true b.open_
  | _ => .done b

-- One token. Each repetition moves on to another part or closes an element, so `fuel` need not be large.
def take (b : Builder) (token : Token) : Nat → Builder
  | 0 => b
  | fuel + 1 =>
    match if b.readsForeign token then b.foreign token else b.byPart token with
    | .done b => b
    | .again b => b.take token fuel

-- Right behind the start of preformatted text one line break is dropped.
def feed (b : Builder) (token : Token) : Builder :=
  let skip := b.skipNewline
  let b := { b with skipNewline := false }
  let fuel := b.open_.length + 40
  match token with
  | .blanks ('\n' :: cs) =>
    if skip then if cs.isEmpty then b else b.take (.blanks cs) fuel else b.take token fuel
  | _ => b.take token fuel

end Harvester.Html.Builder

namespace Harvester.Html

-- Line breaks are all read as line feeds.
def plainNewlines : List Char → List Char
  | '\r' :: '\n' :: rest => '\n' :: plainNewlines rest
  | '\r' :: rest => '\n' :: plainNewlines rest
  | c :: rest => c :: plainNewlines rest
  | [] => []

-- Cutting and building take turns, since what has been built decides how the text is cut.
def buildFrom (b : Builder) : Nat → List Char → Builder
  | 0, _ => b
  | fuel + 1, cs =>
    if cs.isEmpty then b
    else
      let foreign := !b.open_.isEmpty && b.isForeign b.current
      let (tokens, rest) := nextTokens b.manner foreign cs
      buildFrom (tokens.foldl Builder.feed b) fuel rest

-- The document that a text spells. Every text spells one.
def document (text : String) : Tree :=
  let cs := plainNewlines text.toList
  let cs := match cs with
    | c :: rest => if c.toNat = 0xFEFF then rest else cs
    | [] => []
  let b := (buildFrom .start (cs.length + 1) cs).feed .ending
  b.draft.tree b.draft.vertices.size 0

end Harvester.Html
