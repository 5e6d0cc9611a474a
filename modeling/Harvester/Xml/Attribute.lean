import Harvester.Xml.Reference
namespace Harvester.Xml

-- Where the reader of a tag's attributes stands. Collected characters are held in reverse.
inductive AttributeMode
  | gap
  | name (raw : List Char)
  | equals (name : List Char)
  | mark (name : List Char)
  | value (name : List Char) (quoteMark : Char) (raw : List Char)
deriving Repr, DecidableEq, Inhabited

-- Name and value pairs in order. A value must be quoted; between two attributes no blank is needed.
def attributesFrom (mode : AttributeMode) : List Char → Option (List (List Char × List Char))
  | [] =>
    match mode with
    | .gap => some []
    | _ => none
  | c :: rest =>
    match mode with
    | .gap => if isSpace c then attributesFrom .gap rest else attributesFrom (.name [c]) rest
    | .name raw =>
      if c = '=' then attributesFrom (.mark raw.reverse) rest
      else if isSpace c then attributesFrom (.equals raw.reverse) rest
      else attributesFrom (.name (c :: raw)) rest
    | .equals name =>
      if isSpace c then attributesFrom (.equals name) rest
      else if c = '=' then attributesFrom (.mark name) rest else none
    | .mark name =>
      if isSpace c then attributesFrom (.mark name) rest
      else if c = '"' ∨ c = '\'' then attributesFrom (.value name c []) rest else none
    | .value name quoteMark raw =>
      if c = quoteMark then (attributesFrom .gap rest).map ((name, raw.reverse) :: ·)
      else attributesFrom (.value name quoteMark (c :: raw)) rest

def distinct : List (List Char × List Char) → Bool
  | [] => true
  | (name, _) :: rest => rest.all (fun other => other.1 != name) && distinct rest

-- The attributes of a tag, when they are well formed and no name stands twice.
def attributes? (raw : List Char) : Option (List (List Char × List Char)) :=
  (attributesFrom .gap raw).filter distinct

-- A declaration of a name space keeps its whole name.
def attributeName (name : List Char) : List Char :=
  if name.take 6 = "xmlns:".toList then name else localName name

-- The value of an attribute by its local name, which must not stand twice.
def attribute? (name : String) (attributes : List (List Char × List Char)) : Option (Option String) :=
  match attributes.filter fun a => attributeName a.1 = name.toList with
  | [] => some none
  | [(_, raw)] => (resolve? raw).map fun cs => some (String.ofList cs)
  | _ => none

end Harvester.Xml
