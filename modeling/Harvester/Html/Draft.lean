import Harvester.Html.Token
namespace Harvester.Html

inductive Space
  | html | svg | mathml
deriving Repr, DecidableEq, Inhabited

inductive Label
  | root
  | element (space : Space) (name : String) (attributes : Attributes)
  | text (content : String)
  | comment
deriving Repr, DecidableEq, Inhabited

-- A node of a document that is still being put together. Nodes are known by their number, since they may yet move.
structure Vertex where
  label : Label
  parent : Option Nat
  children : List Nat
deriving Repr, Inhabited

-- The nodes made so far; number 0 is the document itself.
structure Draft where
  vertices : Array Vertex
deriving Repr, Inhabited

namespace Draft

def start : Draft := ⟨#[⟨.root, none, []⟩]⟩

def vertex (d : Draft) (i : Nat) : Vertex := d.vertices.getD i ⟨.comment, none, []⟩

def update (d : Draft) (i : Nat) (change : Vertex → Vertex) : Draft := ⟨d.vertices.modify i change⟩

-- A node without a place; its number comes with it.
def make (d : Draft) (label : Label) : Nat × Draft := (d.vertices.size, ⟨d.vertices.push ⟨label, none, []⟩⟩)

def detach (d : Draft) (i : Nat) : Draft :=
  match (d.vertex i).parent with
  | none => d
  | some p =>
    (d.update p fun v => { v with children := v.children.filter (· != i) }).update i fun v => { v with parent := none }

def append (d : Draft) (parent i : Nat) : Draft :=
  (d.update parent fun v => { v with children := v.children ++ [i] }).update i fun v => { v with parent := some parent }

def insertBefore (d : Draft) (sibling i : Nat) : Draft :=
  match (d.vertex sibling).parent with
  | none => d
  | some p =>
    (d.update p fun v => { v with children := v.children.flatMap fun c => if c = sibling then [i, c] else [c] }).update i
      fun v => { v with parent := some p }

def isText (d : Draft) (i : Nat) : Bool :=
  match (d.vertex i).label with
  | .text _ => true
  | _ => false

def extend (d : Draft) (i : Nat) (more : String) : Draft :=
  d.update i fun v => match v.label with
    | .text content => { v with label := .text (content ++ more) }
    | _ => v

-- Text joins a text right before it.
def appendText (d : Draft) (parent : Nat) (content : String) : Draft :=
  let last := (d.vertex parent).children.getLast?.filter d.isText
  match last with
  | some i => d.extend i content
  | none =>
    let (i, d) := d.make (.text content)
    d.append parent i

-- The node right before another one among the same children.
def previous? (i : Nat) : List Nat → Option Nat
  | a :: b :: rest => if b = i then some a else previous? i (b :: rest)
  | _ => none

def insertTextBefore (d : Draft) (sibling : Nat) (content : String) : Draft :=
  let before := ((d.vertex sibling).parent.bind fun p => previous? sibling (d.vertex p).children).filter d.isText
  match before with
  | some i => d.extend i content
  | none =>
    let (i, d) := d.make (.text content)
    d.insertBefore sibling i

-- All children of one node become the last children of another.
def moveChildren (d : Draft) (source target : Nat) : Draft :=
  (d.vertex source).children.foldl (fun d i => (d.detach i).append target i) d

-- Attributes that are not there yet.
def addAttributes (d : Draft) (i : Nat) (more : Attributes) : Draft :=
  d.update i fun v => match v.label with
    | .element space name attributes =>
      { v with label := .element space name (more.foldl (fun all a => addAttribute all a.1 a.2) attributes) }
    | _ => v

end Draft

-- A finished document.
inductive Tree
  | element (name : String) (attributes : Attributes) (children : List Tree)
  | text (content : String)
  | comment
deriving Repr, Inhabited

-- The tree below a node. `fuel` bounds the depth, which is less than the number of nodes.
def Draft.tree (d : Draft) : Nat → Nat → Tree
  | 0, _ => .comment
  | fuel + 1, i =>
    let v := d.vertex i
    match v.label with
    | .root => .element "" [] (v.children.map (d.tree fuel))
    | .element _ name attributes => .element name attributes (v.children.map (d.tree fuel))
    | .text content => .text content
    | .comment => .comment

end Harvester.Html
