import Harvester.Html.Draft
namespace Harvester.Html.Tree

open Text

def attribute? (t : Tree) (name : String) : Option String :=
  match t with
  | .element _ attributes _ => (attributes.find? fun a => a.1 == name).map (·.2)
  | _ => none

def isNamed (name : String) : Tree → Bool
  | .element n _ _ => n == name
  | _ => false

-- All elements of a name below a node, in document order.
mutual
def elements (name : String) : Tree → List Tree
  | .element _ _ children => elementsAll name children
  | _ => []
def elementsAll (name : String) : List Tree → List Tree
  | [] => []
  | t :: rest => (if t.isNamed name then [t] else []) ++ elements name t ++ elementsAll name rest
end

-- All elements named `inner` that stand below a node and have an ancestor named `outer`. The ancestor may lie above
-- the node; `inside` tells that one does, or that the node is one.
mutual
def elementsWithin (outer inner : String) (inside : Bool) : Tree → List Tree
  | .element _ _ children => elementsWithinAll outer inner inside children
  | _ => []
def elementsWithinAll (outer inner : String) (inside : Bool) : List Tree → List Tree
  | [] => []
  | t :: rest =>
    (if inside && t.isNamed inner then [t] else []) ++
      elementsWithin outer inner (inside || t.isNamed outer) t ++ elementsWithinAll outer inner inside rest
end

-- The first element with an id, and whether an element named `outer` lies above it or is itself. The first is the one
-- in document order. That is also the order in which elements were read, unless one was moved out of a table to stand
-- in front of it: of an id given twice, such an element is the first here although it was read last.
mutual
def withId? (id outer : String) (inside : Bool) : Tree → Option (Bool × Tree)
  | .element name attributes children =>
    let inside := inside || name == outer
    if (attributes.find? fun a => a.1 == "id").any fun a => a.2 == id then
      some (inside, .element name attributes children)
    else withIdAll? id outer inside children
  | _ => none
def withIdAll? (id outer : String) (inside : Bool) : List Tree → Option (Bool × Tree)
  | [] => none
  | t :: rest =>
    match withId? id outer inside t with
    | some found => some found
    | none => withIdAll? id outer inside rest
end

-- The texts in a node, in document order.
mutual
def texts : Tree → List String
  | .element _ _ children => textsAll children
  | .text content => [content]
  | .comment => []
def textsAll : List Tree → List String
  | [] => []
  | t :: rest => texts t ++ textsAll rest
end

-- The words in a node, parted by single spaces. Words of different texts are different words.
def shownText (t : Tree) : String :=
  " ".intercalate ((t.texts.flatMap fun s => words s.toList).map String.ofList)

end Harvester.Html.Tree
