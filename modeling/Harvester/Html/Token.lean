import Harvester.Html.Reference
namespace Harvester.Html

open Text

abbrev Attributes := List (String × String)

structure Tag where
  name : String
  attributes : Attributes
  selfClosing : Bool
deriving Repr, DecidableEq, Inhabited

-- What a document type declaration says about old browsers' layout rules.
structure Doctype where
  name : Option String
  publicId : Option String
  systemId : Option String
  broken : Bool
deriving Repr, DecidableEq, Inhabited

inductive Token
  | doctype (declared : Doctype)
  | start (tag : Tag)
  | close (tag : Tag)
  | comment
  | blanks (cs : List Char)
  | words (cs : List Char)
  | zero
  | ending
deriving Repr, DecidableEq, Inhabited

-- How the text is to be cut next. Raw text ends only at the end tag of the named element.
inductive Manner
  | markup
  | rawText (element : String)
  | resolvedText (element : String)
  | script
  | plain
deriving Repr, DecidableEq, Inhabited

-- The zero character stands for nothing in most places; elsewhere it shows as a replacement.
def shown (c : Char) : Char := if c.toNat = 0 then replacementChar else c

def lowerName (cs : List Char) : String := String.ofList (cs.map fun c => shown (lowerAscii c))

-- Characters grouped into blanks, zero characters and the others.
def textTokens : List Char → List Token
  | [] => []
  | c :: rest =>
    let tail := textTokens rest
    if c.toNat = 0 then .zero :: tail
    else if isSpace c then
      match tail with
      | .blanks cs :: tail => .blanks (c :: cs) :: tail
      | tail => .blanks [c] :: tail
    else
      match tail with
      | .words cs :: tail => .words (c :: cs) :: tail
      | tail => .words [c] :: tail

def dropSpaces (cs : List Char) : List Char := cs.dropWhile isSpace

-- The rest behind the first occurrence of one of the patterns; nothing when there is none.
def behindFirst (patterns : List (List Char)) : List Char → List Char
  | [] => []
  | c :: cs =>
    match patterns.findSome? fun p => dropPattern? p (c :: cs) with
    | some rest => rest
    | none => behindFirst patterns cs

-- The rest behind a comment that has been opened.
def behindComment (cs : List Char) : List Char :=
  match cs with
  | '>' :: rest => rest
  | '-' :: '>' :: rest => rest
  | cs => behindFirst [['-', '-', '>'], ['-', '-', '!', '>']] cs

def addAttribute (attributes : Attributes) (name value : String) : Attributes :=
  if attributes.any fun a => a.1 == name then attributes else attributes ++ [(name, value)]

def attributeValue (cs : List Char) : String := String.ofList (decode true (cs.map shown))

-- The attributes of a tag up to its closing bracket; `none` when the document ends before it. Of a repeated name the
-- first counts.
def tagRest? (attributes : Attributes) : Nat → List Char → Option (Attributes × Bool × List Char)
  | 0, _ => none
  | fuel + 1, cs =>
    match dropSpaces cs with
    | [] => none
    | '/' :: '>' :: rest => some (attributes, true, rest)
    | '/' :: rest => tagRest? attributes fuel rest
    | '>' :: rest => some (attributes, false, rest)
    | c :: rest =>
      let isNameEnd := fun c => isSpace c || c == '/' || c == '>' || c == '='
      let name := lowerName (c :: rest.takeWhile fun c => !isNameEnd c)
      let behind := rest.dropWhile fun c => !isNameEnd c
      match dropSpaces behind with
      | '=' :: rest =>
        match dropSpaces rest with
        | [] => none
        | '>' :: rest => some (addAttribute attributes name "", false, rest)
        | q :: rest =>
          if q = '"' ∨ q = '\'' then
            match rest.dropWhile (· != q) with
            | [] => none
            | _ :: behind => tagRest? (addAttribute attributes name (attributeValue (rest.takeWhile (· != q)))) fuel behind
          else
            let isValueEnd := fun c => isSpace c || c == '>'
            let value := (q :: rest).takeWhile fun c => !isValueEnd c
            tagRest? (addAttribute attributes name (attributeValue value)) fuel ((q :: rest).drop value.length)
      | behind => tagRest? (addAttribute attributes name "") fuel behind

-- A tag whose name begins here.
def tag? (cs : List Char) : Option (Tag × List Char) :=
  let isNameEnd := fun c => isSpace c || c == '/' || c == '>'
  let name := cs.takeWhile fun c => !isNameEnd c
  let behind := cs.drop name.length
  (tagRest? [] (behind.length + 1) behind).map fun (attributes, selfClosing, rest) =>
    (⟨lowerName name, attributes, selfClosing⟩, rest)

-- A quoted identifier of a document type, if one stands here; the flag is false when its closing quote is missing.
def identifier? (cs : List Char) : Option (String × Bool × List Char) :=
  match cs with
  | q :: rest =>
    if q = '"' ∨ q = '\'' then
      let behind := rest.dropWhile (· != q)
      some (String.ofList ((rest.takeWhile (· != q)).map shown), !behind.isEmpty, behind.drop 1)
    else none
  | [] => none

def startsWord (word : String) (cs : List Char) : Bool :=
  (cs.take word.length).map lowerAscii == word.toList

-- The identifiers behind the name. `whole` is false when the declaration was cut off by the end of the document.
def doctypeIds (name : Option String) (whole : Bool) (cs : List Char) : Doctype :=
  let unsound : Doctype := ⟨name, none, none, true⟩
  let system := fun (publicId : Option String) (cs : List Char) =>
    match identifier? cs with
    | some (systemId, closed, _) => (⟨name, publicId, some systemId, !(closed && whole)⟩ : Doctype)
    | none => ⟨name, publicId, none, true⟩
  if cs.isEmpty then ⟨name, none, none, !whole⟩
  else if startsWord "public" cs then
    match identifier? (dropSpaces (cs.drop 6)) with
    | none => unsound
    | some (publicId, closed, rest) =>
      if !closed then ⟨name, some publicId, none, true⟩
      else match dropSpaces rest with
        | [] => ⟨name, some publicId, none, !whole⟩
        | cs => system (some publicId) cs
  else if startsWord "system" cs then system none (dropSpaces (cs.drop 6))
  else unsound

-- A document type up to its closing bracket, which also ends an identifier that is still open.
def doctype (cs : List Char) : Doctype × List Char :=
  let body := dropSpaces (cs.takeWhile (· != '>'))
  let behind := cs.dropWhile (· != '>')
  let name := body.takeWhile fun c => !isSpace c
  if name.isEmpty then (⟨none, none, none, true⟩, behind.drop 1)
  else (doctypeIds (some (lowerName name)) (!behind.isEmpty) (dropSpaces (body.drop name.length)), behind.drop 1)

-- What follows `<`: the tokens and the rest. `none` is no markup: the bracket is text. `foreign` tells that the
-- current element is not one of HTML.
def markup? (foreign : Bool) (cs : List Char) : Option (List Token × List Char) :=
  let bogus := fun (cs : List Char) => some ([Token.comment], (cs.dropWhile (· != '>')).drop 1)
  match cs with
  | '!' :: rest =>
    match rest with
    | '-' :: '-' :: rest => some ([.comment], behindComment rest)
    | rest =>
      if startsWord "doctype" rest then
        let (declared, rest) := doctype (rest.drop 7)
        some ([.doctype declared], rest)
      else if foreign then
        match dropPattern? "[CDATA[".toList rest with
        | some rest =>
          let size := rest.length - (behindFirst [[']', ']', '>']] rest).length
          let body := rest.take size
          let closed := body.reverse.take 3 == ['>', ']', ']']
          some (textTokens (if closed then body.take (size - 3) else body), rest.drop size)
        | none => bogus rest
      else bogus rest
  | '?' :: _ => bogus cs
  | '/' :: rest =>
    match rest with
    | [] => none
    | '>' :: rest => some ([], rest)
    | c :: _ =>
      if isLetter c then
        match tag? rest with
        | some (tag, rest) => some ([.close tag], rest)
        | none => some ([], [])
      else bogus rest
  | c :: _ =>
    if isLetter c then
      match tag? cs with
      | some (tag, rest) => some ([.start tag], rest)
      | none => some ([], [])
    else none
  | [] => none

-- Whether the end tag of an element begins here.
def beginsEnd (element : String) (cs : List Char) : Bool :=
  match cs with
  | '<' :: '/' :: rest =>
    startsWord element rest && (rest.drop element.length).head?.any fun c => isSpace c || c == '/' || c == '>'
  | _ => false

-- The text up to the end tag of an element.
def untilEnd (element : String) : List Char → List Char
  | [] => []
  | c :: rest => if beginsEnd element (c :: rest) then [] else c :: untilEnd element rest

-- Inside a script, comments hide end tags once a script has been opened in them.
inductive Hiding
  | none | comment | script
deriving Repr, DecidableEq, Inhabited

def beginsScript (cs : List Char) : Bool :=
  match cs with
  | '<' :: rest => startsWord "script" rest && (rest.drop 6).head?.any fun c => isSpace c || c == '/' || c == '>'
  | _ => false

-- The text of a script. `dashes` counts the hyphens right before; those of the comment's opening count.
def scriptText (cover : Hiding) (dashes : Nat) : List Char → List Char
  | [] => []
  | c :: rest =>
    let cs := c :: rest
    if cover ≠ .script ∧ beginsEnd "script" cs then []
    else
      let cover :=
        match cover with
        | .none => cover
        | .comment => if beginsScript cs then .script else if c = '>' ∧ dashes ≥ 2 then .none else cover
        | .script => if beginsEnd "script" cs then .comment else if c = '>' ∧ dashes ≥ 2 then .none else cover
      let opens := cover = .none ∧ c = '<' ∧ rest.take 3 == ['!', '-', '-']
      c :: scriptText (if opens then .comment else cover) (if c = '-' then dashes + 1 else 0) rest

-- The next tokens and the rest of the document.
def nextTokens (manner : Manner) (foreign : Bool) (cs : List Char) : List Token × List Char :=
  let raw := fun (text : List Char) (resolve : Bool) =>
    let rest := cs.drop text.length
    let tokens := textTokens (if resolve then decode false (text.map shown) else text.map shown)
    match rest with
    | '<' :: '/' :: name =>
      match tag? name with
      | some (tag, rest) => (tokens ++ [.close tag], rest)
      | none => (tokens, [])
    | _ => (tokens, rest)
  match manner with
  | .plain => (textTokens (cs.map shown), [])
  | .rawText element => raw (untilEnd element cs) false
  | .resolvedText element => raw (untilEnd element cs) true
  | .script => raw (scriptText .none 0 cs) false
  | .markup =>
    match cs with
    | '<' :: rest =>
      match markup? foreign rest with
      | some found => found
      | none => (textTokens ['<'], rest)
    | cs =>
      let text := cs.takeWhile (· != '<')
      (textTokens (decode false text), cs.drop text.length)

end Harvester.Html
