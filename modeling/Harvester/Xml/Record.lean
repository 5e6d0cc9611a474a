import Harvester.Xml.Attribute
namespace Harvester.Xml

-- An element met while a record is read. `settled` tells that the references in it have been checked already, since it
-- stood behind the first element of a list.
structure Child where
  name : List Char
  attributes : List Char
  content : List Node
  settled : Bool
deriving Repr, Inhabited

def Child.isNamed (child : Child) (name : String) : Bool := localName child.name = name.toList

-- An element read by name: its attributes and the elements in it.
structure Record where
  attributes : List (List Char × List Char)
  children : List Child
deriving Repr, Inhabited

-- Behind the first element of a list no text may stand any more, and all references must have a meaning, except
-- inside the other elements of the list, which are read for themselves.
def childrenBehind (first : List Char) (settled : Bool) : List Node → Option (List Child)
  | [] => some []
  | .text raw :: rest => if raw.all isSpace then childrenBehind first settled rest else none
  | .cdata _ :: _ => none
  | .doctype :: rest => childrenBehind first settled rest
  | .element name attributes content :: rest =>
    if name = first then (childrenBehind first settled rest).map (⟨name, attributes, content, settled⟩ :: ·)
    else if soundAll content then (childrenBehind first settled rest).map (⟨name, attributes, content, true⟩ :: ·)
    else none

-- Before a list begins, text is passed over when its references have a meaning.
def children? (lists : List String) (settled : Bool) : List Node → Option (List Child)
  | [] => some []
  | .text raw :: rest => if (resolve? raw).isSome then children? lists settled rest else none
  | .cdata _ :: rest => children? lists settled rest
  | .doctype :: rest => children? lists settled rest
  | .element name attributes content :: rest =>
    (if lists.any fun l => localName name = l.toList then childrenBehind name settled rest
      else children? lists settled rest).map (⟨name, attributes, content, settled⟩ :: ·)

def Record.ofElement? (lists : List String) (element : Child) : Option Record :=
  (attributes? element.attributes).bind fun attributes =>
    (children? lists element.settled element.content).map fun children => ⟨attributes, children⟩

-- An element that may stand once or not at all.
def Record.once? (record : Record) (name : String) (read : Child → Option α) : Option (Option α) :=
  match record.children.filter fun c => c.isNamed name with
  | [] => some none
  | [child] => (read child).map some
  | _ => none

-- All elements of a list, which are written with one and the same full name.
def Record.many? (record : Record) (name : String) (read : Child → Option α) : Option (List α) :=
  match record.children.filter fun c => c.isNamed name with
  | [] => some []
  | child :: rest => if rest.all fun c => c.name = child.name then (child :: rest).mapM read else none

def Record.attribute? (record : Record) (name : String) : Option (Option String) :=
  Xml.attribute? name record.attributes

-- Whether an element's content starts, apart from blanks, with text.
def beginsWithText : List Node → Bool
  | .text raw :: rest => !raw.all isSpace || beginsWithText rest
  | .cdata _ :: _ => true
  | _ => false

-- The visible runs of text directly in an element. Behind a skipped element that begins with text a run keeps its
-- leading blanks, unless the element was settled.
def runsFrom (settled front : Bool) (run : List Node) : List Node → Option (List (List Char))
  | [] => (runText? front run).map Option.toList
  | .doctype :: rest => (runText? front run).bind fun t => (runsFrom settled true [] rest).map (t.toList ++ ·)
  | .element _ _ content :: rest =>
    (runText? front run).bind fun t =>
      (runsFrom settled (settled || !beginsWithText content) [] rest).map (t.toList ++ ·)
  | piece :: rest => runsFrom settled front (run ++ [piece]) rest

def isElement : Node → Bool
  | .element .. => true
  | _ => false

-- The text of an element that may hold nothing else; its attributes are not looked at.
def plainText? (element : Child) : Option String :=
  if element.content.any isElement then none
  else match runsFrom element.settled true [] element.content with
    | some [] => some ""
    | some [cs] => some (String.ofList cs)
    | _ => none

-- The text of an element among whose content other elements are passed over: none when there is no text, refused when
-- they part it.
def mixedText? (element : Child) : Option (Option String) :=
  (attributes? element.attributes).bind fun _ =>
    match runsFrom element.settled true [] element.content with
    | some [] => some none
    | some [cs] => some (some (String.ofList cs))
    | _ => none

end Harvester.Xml
