import Harvester.Xml.Piece
namespace Harvester.Xml

-- The content of a document as a tree. Text is kept as it is written.
inductive Node
  | text (raw : List Char)
  | cdata (raw : List Char)
  | doctype
  | element (name attributes : List Char) (content : List Node)
deriving Repr, Inhabited

-- An element whose end has not been seen; its content so far is held in reverse.
structure Opened where
  name : List Char
  attributes : List Char
  content : List Node
deriving Repr, Inhabited

def Opened.add (opened : Opened) (node : Node) : Opened := { opened with content := node :: opened.content }

-- Put a node into the innermost open element. Outside the root only blanks may stand.
def place (node : Node) : List Opened → Option (List Opened)
  | [] =>
    match node with
    | .text raw => if raw.all isSpace then some [] else none
    | .doctype => some []
    | _ => none
  | top :: rest => some (top.add node :: rest)

-- The root element. Every end must name the innermost open element; what follows the root's end is not looked at.
def rootFrom (stack : List Opened) : List Piece → Option Node
  | [] => none
  | .broken :: _ => none
  | .text raw :: rest => (place (.text raw) stack).bind fun stack => rootFrom stack rest
  | .cdata raw :: rest => (place (.cdata raw) stack).bind fun stack => rootFrom stack rest
  | .doctype :: rest => (place .doctype stack).bind fun stack => rootFrom stack rest
  | .start name attributes :: rest => rootFrom (⟨name, attributes, []⟩ :: stack) rest
  | .close name :: rest =>
    match stack with
    | [] => none
    | top :: below =>
      if top.name = name then
        let node := Node.element top.name top.attributes top.content.reverse
        match below with
        | [] => some node
        | parent :: others => rootFrom (parent.add node :: others) rest
      else none

def root? (pieces : List Piece) : Option Node := rootFrom [] pieces

end Harvester.Xml
